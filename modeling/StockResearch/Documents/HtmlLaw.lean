import StockResearch.Core.Words
import StockResearch.Documents.Parsers

/-!
# What the HTML collector collects

The collector keeps a stack of tags and a counter of active elements, and updates them by separate
rules.  `visible` and `Deep` say what they are for, over the elements that are really open: text
inside of no active element is collected, and a document is refused when an element is nested too
deep.  Void elements are never open.

**Where the two part.**  A void element stays on the stack, so it counts as depth, and `embed` hides
all text until it is closed.  An end tag of an active element takes one off the counter though
another one is meant, or none; an end tag that closes active elements on the way takes off none.

**What is proved.**  `Follows` relates the collector to the open elements; a step that `Steady` allows
keeps it (`Follows.handle`), hence so does a run.  `htmlLaw_of_steady` reads the law off it.
-/

namespace StockResearch.Documents

open PyText

/-! ## The elements that are open -/

/-- The elements without content. -/
def voidTags : List String :=
  ["area", "base", "br", "col", "embed", "hr", "img", "input", "link", "meta", "param", "source",
    "track", "wbr"]

/-- The open elements after an event, the innermost one first. -/
def openAfter (elements : List String) : HtmlEvent → List String
  | .starttag tag _ => if tag ∈ voidTags then elements else tag :: elements
  | .endtag tag => if tag ∈ elements then (elements.dropWhile (· ≠ tag)).drop 1 else elements
  | _ => elements

/-- The text of an event that is inside of no active element. -/
def visibleOf (elements : List String) : HtmlEvent → List Text
  | .data data => if strip data = [] ∨ ∃ tag ∈ elements, tag ∈ activeTags then [] else [strip data]
  | _ => []

/-- The text of some events that is inside of no active element. -/
def visible : List String → List HtmlEvent → List Text
  | _, [] => []
  | elements, event :: events => visibleOf elements event ++ visible (openAfter elements event) events

/-- An event opens an element that is nested too deep. -/
def TooDeep (config : ParserConfig) (elements : List String) : HtmlEvent → Prop
  | .starttag tag _ => tag ∉ voidTags ∧ config.maxHtmlDepth < elements.length + 1
  | _ => False

/-- Some element is nested too deep. -/
def Deep (config : ParserConfig) : List String → List HtmlEvent → Prop
  | _, [] => False
  | elements, event :: events =>
      TooDeep config elements event ∨ Deep config (openAfter elements event) events

def elementCount : List HtmlEvent → Nat
  | [] => 0
  | .starttag _ _ :: events => elementCount events + 1
  | _ :: events => elementCount events

/-! ## What a text is made of -/

/-- What `handle_starttag` puts between two cells. -/
def cellSeparator : Text := " | ".toList

def groupText (group : List Text) : Text := strip ([' '].intercalate (group.filter (· ≠ [])))

/-- **A text collects some pieces**: it is made of these, in their order, and of nothing else but
separators; so it contains each of them. -/
structure Collects (text : Text) (pieces : List Text) : Prop where
  madeOf : ∃ groups : List (List Text),
    text = joinLines ((groups.map groupText).filter (· ≠ [])) ∧
      groups.flatten.filter (· ≠ cellSeparator) = pieces
  contains : ∀ piece ∈ pieces, piece <:+: text

lemma infix_joinLines {text : Text} {texts : List Text} (h : text ∈ texts) :
    text <:+: joinLines texts := infix_of_mem_intercalate h

/-- **What a text is made of it contains**, when it is stripped and not empty. -/
lemma collects_of_madeOf {pieces : List Text} {groups : List (List Text)}
    (hgroups : groups.flatten.filter (· ≠ cellSeparator) = pieces)
    (hpieces : ∀ piece ∈ pieces, piece ≠ [] ∧ ∃ data, piece = strip data) :
    Collects (joinLines ((groups.map groupText).filter (· ≠ []))) pieces where
  madeOf := ⟨groups, rfl, hgroups⟩
  contains piece hpiece := by
    obtain ⟨hne, data, rfl⟩ := hpieces piece hpiece
    rw [← hgroups, List.mem_filter, List.mem_flatten] at hpiece
    obtain ⟨⟨group, hgroup, hmem⟩, -⟩ := hpiece
    obtain ⟨hfirst, hlast⟩ := strip_ends hne
    have hinside : strip data <:+: groupText group :=
      infix_strip hfirst hlast (infix_of_mem_intercalate (List.mem_filter.mpr ⟨hmem, by simpa⟩))
    have hnonempty : groupText group ≠ [] := fun hnil => by
      rw [hnil, List.infix_nil] at hinside
      exact hne hinside
    exact hinside.trans (infix_joinLines (List.mem_filter.mpr
      ⟨List.mem_map_of_mem hgroup, by simpa using hnonempty⟩))

/-! ## Following the open elements -/

/-- What blocks and the current parts are made of. -/
def Collector.Holds (c : Collector) (pieces : List Text) : Prop :=
  ∃ groups : List (List Text), c.blocks.map (·.text) = (groups.map groupText).filter (· ≠ []) ∧
    (groups.flatten ++ c.current).filter (· ≠ cellSeparator) = pieces

/-- **The collector follows the open elements**: without void elements its stack is theirs, its
counter is the number of active tags on the stack, and it holds the text that was visible. -/
structure Collector.Follows (c : Collector) (elements : List String) (pieces : List Text) :
    Prop where
  stack : c.stack.filter (· ∉ voidTags) = elements
  suppressed : c.suppressed = c.stack.countP (· ∈ activeTags)
  holds : c.Holds pieces

lemma Collector.follows_init : Collector.init.Follows [] [] := ⟨rfl, rfl, [], rfl, rfl⟩

/-- **A flush** makes a block of the current parts and changes nothing else that is followed. -/
lemma Collector.flush_spec (c : Collector) : c.flush.nodes = c.nodes ∧ c.flush.stack = c.stack ∧
    c.flush.suppressed = c.suppressed ∧ c.flush.current = [] ∧
      c.flush.blocks.map (·.text) =
        c.blocks.map (·.text) ++ [groupText c.current].filter (· ≠ []) := by
  have hflush : c.flush = if groupText c.current = [] then { c with current := [] } else
      c.heading.elim
        (if 0 < c.inTable then { c with
            current := []
            blocks := c.blocks ++ [⟨.table, "Table".toList, groupText c.current, none⟩] }
          else { c with
            current := []
            blocks := c.blocks ++ [⟨.text, "Text".toList, groupText c.current, none⟩] })
        fun heading => { c with
          current := []
          blocks := c.blocks ++ [⟨.heading, groupText c.current, groupText c.current, heading.2⟩]
          heading := none } := by
    obtain ⟨nodes, stack, suppressed, current, blocks, heading, inTable⟩ := c
    cases heading <;> rfl
  rw [hflush]
  by_cases hempty : groupText c.current = []
  · rw [if_pos hempty]
    exact ⟨rfl, rfl, rfl, rfl, by simp [hempty]⟩
  · rw [if_neg hempty]
    cases c.heading with
    | none =>
        rw [Option.elim_none]
        split_ifs
        · exact ⟨rfl, rfl, rfl, rfl, by simp [hempty]⟩
        · exact ⟨rfl, rfl, rfl, rfl, by simp [hempty]⟩
    | some heading => exact ⟨rfl, rfl, rfl, rfl, by simp [hempty]⟩

lemma Collector.Holds.flush {c : Collector} {pieces : List Text} (h : c.Holds pieces) :
    c.flush.Holds pieces := by
  obtain ⟨groups, hblocks, hpieces⟩ := h
  obtain ⟨-, -, -, hcurrent, hflushed⟩ := c.flush_spec
  refine ⟨groups ++ [c.current], ?_, ?_⟩
  · rw [hflushed, hblocks, List.map_append, List.filter_append]
    rfl
  · rw [hcurrent, List.append_nil, List.flatten_append, List.flatten_singleton]
    exact hpieces

lemma Collector.Follows.flush {c : Collector} {elements : List String} {pieces : List Text}
    (h : c.Follows elements pieces) : c.flush.Follows elements pieces := by
  obtain ⟨-, hstack, hsuppressed, -, -⟩ := c.flush_spec
  exact ⟨by rw [hstack, h.stack], by rw [hstack, hsuppressed, h.suppressed], h.holds.flush⟩

/-! ## Steps -/

/-- **A step that goes right.**

A start tag of a void element finds room on the stack; that of another one exceeds the limit only if
it does without the void elements on the stack.  An end tag closes the last element of its name, and
above it on the stack is no active element, and for a void tag nothing but void elements; if there is
no such element and the tag is active, nothing is suppressed.  Text stands below no `embed` alone. -/
def Steady (config : ParserConfig) (c : Collector) : HtmlEvent → Prop
  | .starttag tag _ =>
      if tag ∈ voidTags then c.stack.length < config.maxHtmlDepth
      else c.stack.length < config.maxHtmlDepth ∨
        config.maxHtmlDepth ≤ (c.stack.filter (· ∉ voidTags)).length
  | .endtag tag =>
      if tag ∈ c.stack then ∀ above ∈ c.stack.takeWhile (· ≠ tag),
        above ∉ activeTags ∧ (tag ∈ voidTags → above ∈ voidTags)
      else tag ∈ activeTags → c.suppressed = 0
  | .data data => strip data ≠ [] → "embed" ∈ c.stack →
      ∃ tag ∈ c.stack, tag ∈ activeTags ∧ tag ∉ voidTags
  | .failure => False

/-- A run of such steps. -/
def SteadyRun (config : ParserConfig) : Collector → List HtmlEvent → Prop
  | _, [] => True
  | c, event :: events => Steady config c event ∧
      ∀ c', c.handle config event = .ok c' → SteadyRun config c' events

variable {config : ParserConfig} {c c' : Collector} {elements : List String} {pieces : List Text}

/-- Only blocks and parts have changed, and they are made of the same. -/
structure Collector.Keeps (c d : Collector) (pieces : List Text) : Prop where
  nodes : d.nodes = c.nodes
  stack : d.stack = c.stack
  suppressed : d.suppressed = c.suppressed
  holds : d.Holds pieces

lemma Collector.Keeps.flush {d : Collector} (h : c.Keeps d pieces) : c.Keeps d.flush pieces := by
  obtain ⟨hnodes, hstack, hsuppressed, -, -⟩ := d.flush_spec
  exact ⟨hnodes.trans h.nodes, hstack.trans h.stack, hsuppressed.trans h.suppressed, h.holds.flush⟩

lemma Collector.Keeps.separator {d : Collector} (h : c.Keeps d pieces) :
    c.Keeps { d with current := d.current ++ [" | ".toList] } pieces := by
  obtain ⟨groups, hblocks, hpieces⟩ := h.holds
  refine ⟨h.nodes, h.stack, h.suppressed, groups, hblocks, ?_⟩
  dsimp only
  rw [← List.append_assoc, List.filter_append, hpieces,
    List.filter_cons_of_neg (by simp [cellSeparator]), List.filter_nil, List.append_nil]

/-- A start tag that is in bounds. -/
lemma Collector.Follows.starttag {tag : String} {attrs : List (String × Option String)}
    (h : c.Follows elements pieces) (hstep : c.handleStarttag config tag attrs = some c') :
    c'.nodes = c.nodes + 1 ∧ c'.Follows (openAfter elements (.starttag tag attrs)) pieces := by
  have hstack : (tag :: c.stack).filter (· ∉ voidTags) =
      openAfter elements (.starttag tag attrs) := by
    rw [List.filter_cons, h.stack, openAfter]
    split_ifs with hvisible hvoid hvoid
    · simp [hvoid] at hvisible
    · rfl
    · rfl
    · simp [hvoid] at hvisible
  have hopened : Collector.Keeps { c with nodes := c.nodes + 1, stack := tag :: c.stack }
      { c with nodes := c.nodes + 1, stack := tag :: c.stack } pieces := ⟨rfl, rfl, rfl, h.holds⟩
  unfold Collector.handleStarttag at hstep
  dsimp only at hstep
  split at hstep
  · cases hstep
  split at hstep
  · cases hstep
  by_cases hactive : tag ∈ activeTags
  · rw [if_pos hactive, Option.some.injEq] at hstep
    subst hstep
    refine ⟨rfl, hstack, ?_, h.holds⟩
    rw [List.countP_cons_of_pos (by simpa using hactive), ← h.suppressed]
  rw [if_neg hactive] at hstep
  have hcount : c.suppressed = (tag :: c.stack).countP (· ∈ activeTags) := by
    rw [List.countP_cons_of_neg (by simpa using hactive), h.suppressed]
  have hkept : ∀ {d : Collector},
      Collector.Keeps { c with nodes := c.nodes + 1, stack := tag :: c.stack } d pieces →
        d.nodes = c.nodes + 1 ∧ d.Follows (openAfter elements (.starttag tag attrs)) pieces :=
    fun {d} hd => ⟨hd.nodes, by rw [hd.stack, hstack], by rw [hd.suppressed, hd.stack, hcount],
      hd.holds⟩
  split at hstep
  · cases hstep
    exact hkept hopened
  -- A table flushes what stands before it, and a cell is set off from the one before.
  generalize htable : (if tag = "table" then _ else _ : Collector) = table at hstep
  have htable : Collector.Keeps { c with nodes := c.nodes + 1, stack := tag :: c.stack } table
      pieces := by
    subst htable
    split
    · exact ⟨hopened.flush.nodes, hopened.flush.stack, hopened.flush.suppressed,
        hopened.flush.holds⟩
    · exact hopened
  generalize hcell : (if (tag = "td" ∨ tag = "th") ∧ table.current ≠ [] then _ else table) = cell
    at hstep
  have hcell : Collector.Keeps { c with nodes := c.nodes + 1, stack := tag :: c.stack } cell
      pieces := by
    subst hcell
    split
    · exact htable.separator
    · exact htable
  split at hstep
  · cases hstep
    exact hkept ⟨hcell.flush.nodes, hcell.flush.stack, hcell.flush.suppressed, hcell.flush.holds⟩
  · cases hstep
    exact hkept hcell

/-- **Which start tags are out of bounds.** -/
lemma Collector.Follows.starttag_none {tag : String} {attrs : List (String × Option String)}
    (h : c.Follows elements pieces) (hsteady : Steady config c (.starttag tag attrs))
    (hnodes : c.nodes + 1 ≤ config.maxHtmlNodes) :
    c.handleStarttag config tag attrs = none ↔ TooDeep config elements (.starttag tag attrs) := by
  have hraise : c.handleStarttag config tag attrs = none ↔
      config.maxHtmlDepth < c.stack.length + 1 := by
    unfold Collector.handleStarttag
    dsimp only
    rw [if_neg (not_lt.mpr hnodes)]
    by_cases hdepth : config.maxHtmlDepth < c.stack.length + 1
    · rw [if_pos (by simpa using hdepth)]
      exact iff_of_true rfl hdepth
    · rw [if_neg (by simpa using hdepth)]
      refine iff_of_false (fun hnone => ?_) hdepth
      split at hnone
      · cases hnone
      split at hnone
      · cases hnone
      split at hnone
      · cases hnone
      · cases hnone
  rw [hraise, TooDeep]
  have hlength : elements.length ≤ c.stack.length := by
    rw [← h.stack]
    exact List.length_filter_le _ _
  rw [Steady] at hsteady
  by_cases hvoid : tag ∈ voidTags
  · rw [if_pos hvoid] at hsteady
    exact iff_of_false (by omega) fun hdeep => hdeep.1 hvoid
  · rw [if_neg hvoid, h.stack] at hsteady
    simp only [hvoid, not_false_eq_true, true_and]
    omega

/-- What is left behind the last element of a name. -/
lemma split_at_tag {tag : String} {stack : List String} (h : tag ∈ stack) :
    stack = stack.takeWhile (· ≠ tag) ++ tag :: (stack.dropWhile (· ≠ tag)).drop 1 := by
  have hne : stack.dropWhile (· ≠ tag) ≠ [] := fun hnil => by
    have := List.dropWhile_eq_nil_iff.mp hnil tag h
    simp at this
  obtain ⟨x, xs, hx⟩ := List.exists_cons_of_ne_nil hne
  have hhead := List.head?_dropWhile_not (fun s => decide (s ≠ tag)) stack
  rw [hx] at hhead
  have heq : x = tag := by simpa using hhead
  conv_lhs => rw [← List.takeWhile_append_dropWhile (p := fun s => decide (s ≠ tag)) (l := stack)]
  rw [hx, heq]
  rfl

/-- An end tag. -/
lemma Collector.Follows.endtag {tag : String} (h : c.Follows elements pieces)
    (hsteady : Steady config c (.endtag tag)) :
    (c.handleEndtag tag).nodes = c.nodes ∧
      (c.handleEndtag tag).Follows (openAfter elements (.endtag tag)) pieces := by
  -- First the counter and the blocks change, then the stack.
  generalize hfirst : (if tag ∈ activeTags ∧ 0 < c.suppressed then
      { c with suppressed := c.suppressed - 1 }
    else if c.suppressed = 0 ∧ tag ∈ blockTags then
      if tag = "table" ∧ 0 < c.inTable then { c.flush with inTable := c.inTable - 1 } else c.flush
    else c : Collector) = first
  have hhandle : c.handleEndtag tag = if tag ∈ first.stack then
      { first with stack := (first.stack.dropWhile (· ≠ tag)).drop 1 } else first := by
    rw [← hfirst]
    rfl
  have hkept : first.nodes = c.nodes ∧ first.stack = c.stack ∧ first.Holds pieces ∧
      first.suppressed = if tag ∈ activeTags ∧ 0 < c.suppressed then c.suppressed - 1
        else c.suppressed := by
    obtain ⟨hnodes, hstack, hsuppressed, -, -⟩ := c.flush_spec
    subst hfirst
    split_ifs
    · exact ⟨rfl, rfl, h.holds, rfl⟩
    · exact ⟨hnodes, hstack, h.holds.flush, hsuppressed⟩
    · exact ⟨hnodes, hstack, h.holds.flush, hsuppressed⟩
    · exact ⟨rfl, rfl, h.holds, rfl⟩
  obtain ⟨hnodes, hstack, hholds, hsuppressed⟩ := hkept
  rw [hhandle, hstack]
  rw [Steady] at hsteady
  by_cases hmem : tag ∈ c.stack
  · rw [if_pos hmem] at hsteady ⊢
    have hsplit := split_at_tag hmem
    have hname : ∀ s ∈ c.stack.takeWhile (· ≠ tag), s ≠ tag := fun s hs => by
      simpa using List.mem_takeWhile_imp hs
    generalize c.stack.takeWhile (· ≠ tag) = above at *
    generalize (c.stack.dropWhile (· ≠ tag)).drop 1 = below at *
    have hnone : above.countP (· ∈ activeTags) = 0 :=
      List.countP_eq_zero.mpr fun s hs => by simpa using (hsteady s hs).1
    have hcount := h.suppressed
    rw [hsplit, List.countP_append, hnone, Nat.zero_add, List.countP_cons] at hcount
    refine ⟨hnodes, ?_, ?_, hholds⟩
    · have helements := h.stack
      rw [hsplit, List.filter_append, List.filter_cons] at helements
      dsimp only
      by_cases hvoid : tag ∈ voidTags
      · -- Nothing of the open elements is taken off.
        have habove : above.filter (· ∉ voidTags) = [] :=
          List.filter_eq_nil_iff.mpr fun s hs => by simpa using (hsteady s hs).2 hvoid
        have hclosed : tag ∉ elements := fun hin => by
          rw [← h.stack, List.mem_filter] at hin
          simp [hvoid] at hin
        rw [habove, if_neg (by simpa using hvoid), List.nil_append] at helements
        rw [openAfter, if_neg hclosed, helements]
      · rw [if_pos (by simpa using hvoid)] at helements
        have hopen : tag ∈ elements := by
          rw [← helements]
          simp
        rw [openAfter, if_pos hopen, ← helements, List.dropWhile_append_of_pos,
          List.dropWhile_cons_of_neg (by simp)]
        · rfl
        · intro s hs
          simpa using hname s (List.mem_of_mem_filter hs)
    · dsimp only
      rw [hsuppressed]
      by_cases hactive : tag ∈ activeTags
      · rw [if_pos (by simpa using hactive)] at hcount
        rw [if_pos ⟨hactive, by omega⟩]
        omega
      · rw [if_neg (by simpa using hactive)] at hcount
        rw [if_neg fun hboth => hactive hboth.1]
        omega
  · rw [if_neg hmem] at hsteady ⊢
    refine ⟨hnodes, ?_, ?_, hholds⟩
    · rw [hstack, h.stack, openAfter, if_neg]
      rw [← h.stack, List.mem_filter]
      exact fun hin => hmem hin.1
    · rw [hstack, hsuppressed, ← h.suppressed]
      split_ifs with hactive
      · have := hsteady hactive.1
        omega
      · rfl

lemma visibleOf_data (elements : List String) (data : Text) : visibleOf elements (.data data) =
    if strip data = [] ∨ ∃ tag ∈ elements, tag ∈ activeTags then [] else [strip data] := rfl

lemma visibleOf_starttag (elements : List String) (tag : String)
    (attrs : List (String × Option String)) : visibleOf elements (.starttag tag attrs) = [] := rfl

lemma visibleOf_endtag (elements : List String) (tag : String) :
    visibleOf elements (.endtag tag) = [] := rfl

/-- Text. -/
lemma Collector.Follows.data {data : Text} (h : c.Follows elements pieces)
    (hsteady : Steady config c (.data data)) :
    (c.handleData data).nodes = c.nodes ∧ (c.handleData data).Follows elements
      (pieces ++ visibleOf elements (.data data)) := by
  rw [visibleOf_data]
  unfold Collector.handleData
  by_cases hblank : strip data = []
  · rw [if_neg fun hboth => hboth.2 hblank, if_pos (Or.inl hblank), List.append_nil]
    exact ⟨rfl, h⟩
  -- Suppression is about the stack, being inside about the open elements.
  have hhidden : c.suppressed = 0 ↔ ¬ ∃ tag ∈ elements, tag ∈ activeTags := by
    rw [h.suppressed, List.countP_eq_zero]
    constructor
    · rintro hnone ⟨tag, hmem, hactive⟩
      rw [← h.stack, List.mem_filter] at hmem
      exact hnone tag hmem.1 (by simpa using hactive)
    · intro hnone tag hmem hactive
      rw [decide_eq_true_eq] at hactive
      have hvoid : tag ∈ voidTags := by
        by_contra hvoid
        exact hnone ⟨tag, by rw [← h.stack]; exact List.mem_filter.mpr ⟨hmem, by simpa using hvoid⟩,
          hactive⟩
      have hembed : ∀ tag ∈ activeTags, tag ∈ voidTags → tag = "embed" := by decide
      obtain rfl := hembed tag hactive hvoid
      obtain ⟨other, hother, hactive', hvoid'⟩ := hsteady hblank hmem
      exact hnone ⟨other, by
        rw [← h.stack]
        exact List.mem_filter.mpr ⟨hother, by simpa using hvoid'⟩, hactive'⟩
  by_cases hzero : c.suppressed = 0
  · rw [if_pos ⟨hzero, hblank⟩, if_neg (not_or.mpr ⟨hblank, hhidden.mp hzero⟩)]
    obtain ⟨groups, hblocks, hpieces⟩ := h.holds
    refine ⟨rfl, h.stack, h.suppressed, groups, hblocks, ?_⟩
    have hseparator : strip data ≠ cellSeparator := fun heq => by
      obtain ⟨⟨d, hd, hspace⟩, -⟩ := strip_ends hblank
      rw [heq] at hd
      obtain rfl : ' ' = d := Option.some.inj hd
      cases hspace
    dsimp only
    rw [← List.append_assoc, List.filter_append, hpieces,
      List.filter_cons_of_pos (by simpa using hseparator), List.filter_nil]
  · have hinside : ∃ tag ∈ elements, tag ∈ activeTags := by
      by_contra hnone
      exact hzero (hhidden.mpr hnone)
    rw [if_neg fun hboth => hzero hboth.1, if_pos (Or.inr hinside), List.append_nil]
    exact ⟨rfl, h⟩

/-- **A steady step.**  It goes on unless an element is nested too deep, and it keeps following. -/
lemma Collector.Follows.handle {event : HtmlEvent} (h : c.Follows elements pieces)
    (hsteady : Steady config c event) :
    (∀ c', c.handle config event = .ok c' → c'.nodes = c.nodes + elementCount [event] ∧
      c'.Follows (openAfter elements event) (pieces ++ visibleOf elements event)) ∧
    (c.nodes + elementCount [event] ≤ config.maxHtmlNodes →
      (c.handle config event = .error .boundExceeded ↔ TooDeep config elements event)) ∧
    c.handle config event ≠ .error .failure := by
  cases event with
  | starttag tag attrs =>
      have hhandle : c.handle config (.starttag tag attrs) =
          Checked.require (c.handleStarttag config tag attrs) .boundExceeded := rfl
      refine ⟨fun c' hstep => ?_, fun hnodes => ?_, ?_⟩
      · obtain ⟨hcount, hfollows⟩ := h.starttag (Checked.require_ok.mp hstep)
        exact ⟨hcount, by rwa [visibleOf_starttag, List.append_nil]⟩
      · rw [← h.starttag_none hsteady hnodes, hhandle]
        cases c.handleStarttag config tag attrs <;> simp [Checked.require]
      · rw [hhandle]
        cases c.handleStarttag config tag attrs <;> simp [Checked.require]
  | endtag tag =>
      refine ⟨fun c' hstep => ?_, fun _ => iff_of_false (by rintro ⟨⟩) id, by rintro ⟨⟩⟩
      cases hstep
      obtain ⟨hcount, hfollows⟩ := h.endtag hsteady
      exact ⟨hcount, by rwa [visibleOf_endtag, List.append_nil]⟩
  | data data =>
      refine ⟨fun c' hstep => ?_, fun _ => iff_of_false (by rintro ⟨⟩) id, by rintro ⟨⟩⟩
      cases hstep
      exact h.data hsteady
  | failure => exact absurd hsteady id

lemma elementCount_cons (event : HtmlEvent) (events : List HtmlEvent) :
    elementCount (event :: events) = elementCount [event] + elementCount events := by
  cases event <;> simp [elementCount, Nat.add_comm]

/-- **A steady run.** -/
lemma Collector.Follows.run {events : List HtmlEvent} (h : c.Follows elements pieces)
    (hsteady : SteadyRun config c events) :
    (∀ c', events.foldlM (Collector.handle config) c = .ok c' →
      ∃ elements', c'.Follows elements' (pieces ++ visible elements events)) ∧
    (c.nodes + elementCount events ≤ config.maxHtmlNodes →
      (events.foldlM (Collector.handle config) c = .error .boundExceeded ↔
        Deep config elements events)) ∧
    events.foldlM (Collector.handle config) c ≠ .error .failure := by
  induction events generalizing c elements pieces with
  | nil =>
      refine ⟨fun c' hrun => ?_, fun _ => iff_of_false nofun id, nofun⟩
      cases hrun
      exact ⟨elements, by rwa [visible, List.append_nil]⟩
  | cons event events ih =>
      obtain ⟨hstep, hrest⟩ := hsteady
      obtain ⟨hok, hbound, hfailure⟩ := h.handle hstep
      rw [List.foldlM_cons, elementCount_cons, visible, Deep, ← List.append_assoc]
      cases hhandle : c.handle config event with
      | error stop =>
          cases stop with
          | boundExceeded =>
              refine ⟨nofun, fun hnodes => ?_, nofun⟩
              exact iff_of_true rfl (Or.inl ((hbound (by omega)).mp hhandle))
          | failure => exact absurd hhandle hfailure
      | ok next =>
          obtain ⟨hcount, hfollows⟩ := hok next hhandle
          obtain ⟨hokay, hdeep, hnofailure⟩ := ih hfollows (hrest next hhandle)
          refine ⟨hokay, fun hnodes => ?_, hnofailure⟩
          have hshallow : ¬ TooDeep config elements event := fun hdeep => by
            rw [(hbound (by omega)).mpr hdeep] at hhandle
            cases hhandle
          rw [or_iff_right hshallow, ← hdeep (by omega)]
          rfl

/-! ## The law -/

/-- **The HTML parser does its work**: up to the limit of nodes a document is blocked exactly when an
element is nested too deep, and the text of one that is not blocked collects what is visible. -/
structure HtmlLaw (hash : PyJson.IdealHash) (events : Text → List HtmlEvent) (content : List UInt8)
    (source : Text) (config : ParserConfig) : Prop where
  depth : elementCount (events source) ≤ config.maxHtmlNodes →
    (SafeHtmlParser.parse hash events content config =
        .ok (blocked hash "HTML_NODE_LIMIT_EXCEEDED" []) ↔ Deep config [] (events source))
  collects : ∀ p, SafeHtmlParser.parse hash events content config = .ok p → p.status ≠ .blocked →
    Collects p.canonicalText (visible [] (events source))

lemma visible_stripped (events : List HtmlEvent) (elements : List String) :
    ∀ piece ∈ visible elements events, piece ≠ [] ∧ ∃ data, piece = strip data := by
  induction events generalizing elements with
  | nil => simp [visible]
  | cons event events ih =>
      intro piece hpiece
      rw [visible, List.mem_append] at hpiece
      rcases hpiece with hpiece | hpiece
      · cases event with
        | data data =>
            rw [visibleOf_data] at hpiece
            split_ifs at hpiece with hhidden
            · cases hpiece
            · obtain rfl := List.mem_singleton.mp hpiece
              exact ⟨fun hnil => hhidden (Or.inl hnil), data, rfl⟩
        | _ => cases hpiece
      · exact ih _ piece hpiece

/-- **The HTML parser does its work on a steady run.** -/
theorem htmlLaw_of_steady {hash : PyJson.IdealHash} {events : Text → List HtmlEvent}
    {content : List UInt8} {source : Text} {config : ParserConfig}
    (hsource : decodeUtf8Sig content = some source)
    (hsteady : SteadyRun config .init (events source)) :
    HtmlLaw hash events content source config := by
  obtain ⟨hok, hbound, hfailure⟩ := Collector.follows_init.run hsteady
  constructor
  · intro hnodes
    rw [← hbound (by simpa [Collector.init] using hnodes)]
    unfold SafeHtmlParser.parse
    rw [hsource]
    dsimp only
    rcases hrun : (events source).foldlM (Collector.handle config) .init with (_ | _) | collector
    · exact iff_of_true rfl rfl
    · exact absurd hrun hfailure
    · refine iff_of_false (fun hparse => ?_) nofun
      dsimp only at hparse
      split at hparse
      · have hwarnings := congrArg ParsedDocument.warnings (Except.ok.inj hparse)
        simp [blocked] at hwarnings
      · obtain ⟨sections, -, hparse⟩ := Checked.bind_ok.mp hparse
        have hstatus := congrArg ParsedDocument.status (Except.ok.inj hparse)
        simp only [blocked] at hstatus
        split_ifs at hstatus
  · intro p hparse hstatus
    unfold SafeHtmlParser.parse at hparse
    rw [hsource] at hparse
    dsimp only at hparse
    rcases hrun : (events source).foldlM (Collector.handle config) .init with (_ | _) | collector
    · rw [hrun] at hparse
      cases hparse
      exact absurd rfl hstatus
    · exact absurd hrun hfailure
    · rw [hrun] at hparse
      dsimp only at hparse
      split at hparse
      · cases hparse
        exact absurd rfl hstatus
      · obtain ⟨sections, -, hparse⟩ := Checked.bind_ok.mp hparse
        cases hparse
        obtain ⟨elements, hfollows⟩ := hok collector hrun
        obtain ⟨groups, hblocks, hpieces⟩ := hfollows.flush.holds
        obtain ⟨-, -, -, hcurrent, -⟩ := collector.flush_spec
        rw [hcurrent, List.append_nil, List.nil_append] at hpieces
        dsimp only
        rw [hblocks]
        exact collects_of_madeOf hpieces (visible_stripped _ _)

/-- A paragraph, and what `html.parser` reports of it. -/
def paragraphSource : Text := "<p>x</p>".toList

def paragraphEvents : List HtmlEvent := [.starttag "p" [], .data ['x'], .endtag "p"]

/-- A paragraph is a steady run. -/
theorem htmlLaw_paragraph :
    HtmlLaw default (fun _ => paragraphEvents) "<p>x</p>".toUTF8.toList paragraphSource
      .default := by
  refine htmlLaw_of_steady (by decide +kernel) ⟨Or.inl (by decide), fun c hc => ?_⟩
  cases hc
  refine ⟨fun _ hembed => absurd hembed (by decide), fun c hc => ?_⟩
  cases hc
  refine ⟨?_, fun c hc => trivial⟩
  rw [Steady, if_pos (by decide)]
  decide

/-- An `embed` before a text, and what `html.parser` reports of it. -/
def embedSource : Text := "<embed>x".toList

def embedEvents : List HtmlEvent := [.starttag "embed" [], .data ['x']]

/-- **An `embed` swallows the text that follows it**, which is inside of nothing. -/
theorem embed_not_htmlLaw :
    ¬ HtmlLaw default (fun _ => embedEvents) "<embed>x".toUTF8.toList embedSource .default := by
  intro hlaw
  have hparse : (SafeHtmlParser.parse default (fun _ => embedEvents) "<embed>x".toUTF8.toList
      .default).map (fun p => (p.canonicalText, p.status)) = .ok ([], .partly) := by
    decide +kernel
  obtain ⟨p, hparse, hp⟩ := Checked.map_ok.mp hparse
  rw [Prod.mk.injEq] at hp
  have hcollects := hlaw.collects p hparse (by rw [hp.2]; decide)
  have hcontains := hcollects.contains ['x'] (by decide +kernel)
  rw [hp.1, List.infix_nil] at hcontains
  cases hcontains

end StockResearch.Documents
