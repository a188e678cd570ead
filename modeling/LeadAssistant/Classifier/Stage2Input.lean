/-
Module: LeadAssistant.Classifier.Stage2Input
Layer: Classifier
Purpose: What can be read back from the Stage-2 input. Message texts stand between the markers
  unescaped, so a text may hold a marker line or the notice of an unavailable message. A prompt can
  be read in one way only, with one target line, for the chains that `Distinguishable` describes.
Trusted boundary: none
Main exports: Stage2Input.Unambiguous, Stage2Input.Distinguishable,
  Stage2Input.unambiguous_iff_distinguishable, Stage2Input.entries_eq_of_innocent
-/
import LeadAssistant.Classifier.Stages
import LeadAssistant.Library.Fallible
import LeadAssistant.Library.Lines
import LeadAssistant.Library.Numeral

namespace LeadAssistant

namespace Stage2Input

open Lines

/-- The line that stands over an item. -/
def marker (item : ReplyChainItem) : String :=
  if item.isTarget then "[TARGET]" else "[CONTEXT]"

/-- What stands for an unavailable message. -/
def notice : String := "[unavailable message]"

/-- What stands under the marker, if anything can. -/
def shown (item : ReplyChainItem) : Option String :=
  if item.isUnavailable then some notice else item.text

def body (item : ReplyChainItem) : String := (shown item).getD ""

def piece (item : ReplyChainItem) : String := marker item ++ "\n" ++ body item

/-- The prompt of a list of items. -/
def prompt (items : List ReplyChainItem) : String :=
  String.intercalate "\n\n" (items.map piece)

/-- What an item is to the reader of a prompt: whether it is the target, and its text unless it is
unavailable. -/
def entry (item : ReplyChainItem) : Bool × Option String :=
  (item.isTarget, if item.isUnavailable then none else item.text)

/-- What a chain says to the reader of its prompt. -/
def entries (chain : ReplyChain) : List (Bool × Option String) := chain.items.map entry

def targetLine : List Char := "[TARGET]".toList

def contextLine : List Char := "[CONTEXT]".toList

theorem target_ne_context : targetLine ≠ contextLine := by decide

theorem target_ne_nil : targetLine ≠ [] := by decide

/-- A prompt that no other accepted chain shares unless it says the same, with one target line. -/
structure Unambiguous (chain : ReplyChain) (rendered : String) : Prop where
  oneTarget : (lines rendered).count targetLine = 1
  oneReading : ∀ other, formatStage2Input other = .ok rendered → entries other = entries chain

/-- A text with the end of one context item and the start of another in it. -/
def Embeds (text : String) : Prop :=
  ∃ first second, text = first ++ "\n\n[CONTEXT]\n" ++ second

/-- A text of one line starts no other context. -/
theorem not_embeds_of_notMem {text : String} (whole : '\n' ∉ text.toList) : ¬ Embeds text := by
  rintro ⟨first, second, rfl⟩
  apply whole
  rw [String.toList_append, String.toList_append]
  exact List.mem_append_left _ (List.mem_append_right _ (by decide))

/-- The chains whose prompt can be read in one way: the target and at most one context, both
available, with texts that are neither the notice nor hold a target line, and a context text that
does not start another context. -/
structure Distinguishable (chain : ReplyChain) : Prop where
  short : chain.items.length ≤ 2
  available : ∀ item ∈ chain.items, item.isUnavailable = false
  noNotice : ∀ item ∈ chain.items, item.text ≠ some notice
  noTarget : ∀ item ∈ chain.items, ∀ text, item.text = some text → targetLine ∉ lines text
  noContext : ∀ item ∈ chain.items, item.isTarget = false →
    ∀ text, item.text = some text → ¬ Embeds text

variable {item target : ReplyChainItem} {items contexts : List ReplyChainItem}
  {chain other : ReplyChain} {rendered text : String}

/-- What is accepted as contexts and target of a chain: at most ten items, the last one the only
target, each with something to show. -/
structure Accepted (contexts : List ReplyChainItem) (target : ReplyChainItem) : Prop where
  bounded : contexts.length < 10
  marked : target.isTarget = true
  others : ∀ item ∈ contexts, item.isTarget = false
  visible : ∀ item ∈ contexts ++ [target], (shown item).isSome

/-! ### What `format_stage2_input` does -/

theorem shown_eq_body (visible : (shown item).isSome) : shown item = some (body item) := by
  obtain ⟨text, is_shown⟩ := Option.isSome_iff_exists.mp visible
  unfold body
  rw [is_shown]
  rfl

theorem renderItem_eq :
    renderItem item =
      (match shown item with
        | none => .error .valueError
        | some text => .ok (marker item ++ "\n" ++ text)) := by
  unfold renderItem shown marker notice
  cases item.isUnavailable with
  | true => rfl
  | false => cases item.text <;> rfl

theorem mapM_renderItem {pieces : List String} :
    items.mapM renderItem = .ok pieces ↔
      (∀ item ∈ items, (shown item).isSome) ∧ pieces = items.map piece := by
  have of_visible (visible : ∀ item ∈ items, (shown item).isSome) :
      items.mapM renderItem = .ok (items.map piece) := by
    apply Except.mapM_eq_ok
    intro item held
    rw [renderItem_eq, shown_eq_body (visible item held)]
    rfl
  constructor
  · intro traversed
    have visible : ∀ item ∈ items, (shown item).isSome := by
      intro item held
      obtain ⟨value, at_item⟩ := Except.ok_of_mapM_ok traversed held
      rw [renderItem_eq] at at_item
      cases is_shown : shown item with
      | none =>
        rw [is_shown] at at_item
        cases at_item
      | some text => rfl
    refine ⟨visible, ?_⟩
    rw [of_visible visible] at traversed
    exact (Except.ok.inj traversed).symm
  · rintro ⟨visible, rfl⟩
    exact of_visible visible

/-- The only target of the items is the last one. -/
theorem targetLast_iff :
    (items.countP (fun item => item.isTarget) = 1 ∧
        items.getLast?.any (fun item => item.isTarget) = true) ↔
      ∃ contexts target, items = contexts ++ [target] ∧ target.isTarget = true ∧
        ∀ item ∈ contexts, item.isTarget = false := by
  constructor
  · rintro ⟨one, last⟩
    rcases List.eq_nil_or_concat items with rfl | ⟨contexts, target, rfl⟩
    · simp at one
    · rw [List.concat_eq_append] at one last ⊢
      have marked : target.isTarget = true := by simpa using last
      have no_other : contexts.countP (fun item => item.isTarget) = 0 := by
        rw [List.countP_append, List.countP_singleton, if_pos marked] at one
        omega
      refine ⟨contexts, target, rfl, marked, ?_⟩
      intro item held
      simpa using List.countP_eq_zero.mp no_other item held
  · rintro ⟨contexts, target, rfl, marked, others⟩
    have no_other : contexts.countP (fun item => item.isTarget) = 0 := by
      apply List.countP_eq_zero.mpr
      intro item held
      simpa using others item held
    constructor
    · rw [List.countP_append, List.countP_singleton, if_pos marked, no_other]
    · simpa using marked

/-- A chain is rendered exactly when it is accepted, and then to its prompt. -/
theorem formatStage2Input_eq_ok :
    formatStage2Input chain = .ok rendered ↔
      ∃ contexts target, chain.items = contexts ++ [target] ∧ Accepted contexts target ∧
        rendered = prompt (contexts ++ [target]) := by
  unfold formatStage2Input
  split
  case isTrue out_of_bounds =>
    simp only [reduceCtorEq, false_iff]
    rintro ⟨contexts, target, is_items, accepted, -⟩
    have bounded := accepted.bounded
    rw [is_items, List.length_append, List.length_singleton] at out_of_bounds
    omega
  case isFalse in_bounds =>
    split
    case isTrue no_target =>
      simp only [reduceCtorEq, false_iff]
      rintro ⟨contexts, target, is_items, accepted, -⟩
      obtain ⟨one, last⟩ :=
        targetLast_iff.mpr ⟨contexts, target, is_items, accepted.marked, accepted.others⟩
      simp [one, last] at no_target
    case isFalse has_target =>
      rw [not_or, not_not, Bool.not_eq_false] at has_target
      obtain ⟨contexts, target, is_items, marked, others⟩ := targetLast_iff.mp has_target
      rw [Except.bind_eq_ok_iff]
      constructor
      · rintro ⟨pieces, traversed, is_rendered⟩
        obtain ⟨visible, rfl⟩ := mapM_renderItem.mp traversed
        rw [is_items, List.length_append, List.length_singleton] at in_bounds
        rw [is_items] at visible is_rendered
        exact ⟨contexts, target, is_items, ⟨by omega, marked, others, visible⟩,
          (Except.ok.inj is_rendered).symm⟩
      · rintro ⟨contexts', target', is_items', accepted, rfl⟩
        rw [is_items']
        exact ⟨_, mapM_renderItem.mpr ⟨accepted.visible, rfl⟩, rfl⟩

/-! ### The lines of a prompt -/

theorem marker_eq_target (marked : item.isTarget = true) : marker item = "[TARGET]" := by
  unfold marker
  rw [if_pos marked]

theorem marker_eq_context (unmarked : item.isTarget = false) : marker item = "[CONTEXT]" := by
  unfold marker
  rw [unmarked]
  rfl

theorem lines_piece_target (marked : item.isTarget = true) :
    lines (piece item) = targetLine :: lines (body item) := by
  unfold piece
  rw [lines_newline, marker_eq_target marked, lines_of_notMem (by decide)]
  rfl

theorem lines_piece_context (unmarked : item.isTarget = false) :
    lines (piece item) = contextLine :: lines (body item) := by
  unfold piece
  rw [lines_newline, marker_eq_context unmarked, lines_of_notMem (by decide)]
  rfl

@[simp] theorem prompt_singleton : prompt [item] = piece item := rfl

theorem prompt_cons (more : items ≠ []) :
    prompt (item :: items) = piece item ++ "\n\n" ++ prompt items :=
  String.intercalate_cons_of_ne_nil (by simpa using more)

/-- The lines of a prompt above the last item. -/
def preface (contexts : List ReplyChainItem) : List (List Char) :=
  contexts.flatMap (fun item => lines (piece item) ++ [[]])

theorem lines_prompt :
    lines (prompt (contexts ++ [target])) = preface contexts ++ lines (piece target) := by
  induction contexts with
  | nil => rfl
  | cons item contexts ih =>
    rw [List.cons_append, prompt_cons (by simp), lines_gap, ih]
    simp [preface]

theorem preface_eq (some_context : contexts ≠ []) :
    preface contexts = lines (prompt contexts) ++ [[]] := by
  rcases List.eq_nil_or_concat contexts with rfl | ⟨before, last, rfl⟩
  · exact absurd rfl some_context
  · rw [List.concat_eq_append, lines_prompt]
    simp [preface]

/-- The contexts of a prompt are known by the lines above its target. -/
theorem prompt_eq_of_preface_eq {before after : List ReplyChainItem} (some_before : before ≠ [])
    (some_after : after ≠ []) (same : preface before = preface after) :
    prompt before = prompt after := by
  rw [preface_eq some_before, preface_eq some_after] at same
  exact lines_injective (List.append_cancel_right same)

theorem target_mem_preface (others : ∀ item ∈ contexts, item.isTarget = false) :
    targetLine ∈ preface contexts ↔ ∃ item ∈ contexts, targetLine ∈ lines (body item) := by
  unfold preface
  rw [List.mem_flatMap]
  apply exists_congr
  intro item
  apply and_congr_right
  intro held
  rw [lines_piece_context (others item held), List.mem_append, List.mem_cons, List.mem_singleton]
  constructor
  · rintro ((is_context | imitated) | is_empty)
    · exact absurd is_context target_ne_context
    · exact imitated
    · exact absurd is_empty target_ne_nil
  · exact fun imitated => .inl (.inr imitated)

theorem oneTarget_iff (accepted : Accepted contexts target) :
    (lines (prompt (contexts ++ [target]))).count targetLine = 1 ↔
      ∀ item ∈ contexts ++ [target], targetLine ∉ lines (body item) := by
  have counted : (lines (prompt (contexts ++ [target]))).count targetLine =
      (preface contexts).count targetLine + ((lines (body target)).count targetLine + 1) := by
    rw [lines_prompt, lines_piece_target accepted.marked, List.count_append]
    exact congrArg _ List.count_cons_self
  have one_iff (above below : Nat) : above + (below + 1) = 1 ↔ above = 0 ∧ below = 0 := by omega
  rw [counted, one_iff, List.count_eq_zero, List.count_eq_zero,
    target_mem_preface accepted.others]
  constructor
  · rintro ⟨none_above, none_below⟩ item held
    rcases List.mem_append.mp held with in_contexts | is_target
    · exact fun imitated => none_above ⟨item, in_contexts, imitated⟩
    · obtain rfl := List.mem_singleton.mp is_target
      exact none_below
  · intro none_imitated
    refine ⟨?_, none_imitated target (by simp)⟩
    rintro ⟨item, in_contexts, imitated⟩
    exact none_imitated item (List.mem_append_left _ in_contexts) imitated

/-! ### Chains that are rendered alike -/

/-- Another accepted chain with the same prompt says the same. -/
theorem Unambiguous.entries_eq (unambiguous : Unambiguous chain rendered)
    (accepted : Accepted contexts target) (same : prompt (contexts ++ [target]) = rendered) :
    (contexts ++ [target]).map entry = entries chain := by
  apply unambiguous.oneReading { chain with items := contexts ++ [target] }
  exact formatStage2Input_eq_ok.mpr ⟨contexts, target, rfl, accepted, same.symm⟩

/-- An unavailable message as one whose text is the notice, and the other way round. -/
def conceal (item : ReplyChainItem) : ReplyChainItem :=
  if item.isUnavailable then { item with isUnavailable := false, text := some notice }
  else if item.text = some notice then { item with isUnavailable := true }
  else item

theorem isTarget_conceal : (conceal item).isTarget = item.isTarget := by
  unfold conceal
  split
  · rfl
  · split <;> rfl

theorem shown_conceal : shown (conceal item) = shown item := by
  unfold conceal
  split
  case isTrue unavailable => simp [shown, unavailable]
  case isFalse available =>
    split
    case isTrue is_notice => simp [shown, available, is_notice]
    case isFalse => rfl

theorem piece_conceal : piece (conceal item) = piece item := by
  simp only [piece, marker, body, isTarget_conceal, shown_conceal]

/-- Only an item that is available and does not show the notice keeps its entry. -/
theorem plain_of_entry_conceal (same : entry (conceal item) = entry item) :
    item.isUnavailable = false ∧ item.text ≠ some notice := by
  unfold conceal at same
  split at same
  case isTrue unavailable => simp [entry, unavailable] at same
  case isFalse available =>
    refine ⟨by simpa using available, ?_⟩
    intro is_notice
    simp [entry, available, is_notice] at same

theorem accepted_conceal (accepted : Accepted contexts target) :
    Accepted (contexts.map conceal) (conceal target) where
  bounded := by simpa using accepted.bounded
  marked := by
    rw [isTarget_conceal]
    exact accepted.marked
  others := by
    intro item held
    obtain ⟨source, in_contexts, rfl⟩ := List.mem_map.mp held
    rw [isTarget_conceal]
    exact accepted.others source in_contexts
  visible := by
    intro item held
    rw [← List.map_singleton, ← List.map_append] at held
    obtain ⟨source, in_chain, rfl⟩ := List.mem_map.mp held
    rw [shown_conceal]
    exact accepted.visible source in_chain

theorem prompt_conceal : prompt (items.map conceal) = prompt items := by
  have same : (piece ∘ conceal) = piece := funext fun item => piece_conceal
  rw [prompt, List.map_map, same, prompt]

/-- In an unambiguous chain every message is available and none shows the notice. -/
theorem Unambiguous.plain (unambiguous : Unambiguous chain rendered)
    (is_items : chain.items = contexts ++ [target]) (accepted : Accepted contexts target)
    (is_rendered : rendered = prompt (contexts ++ [target])) (held : item ∈ chain.items) :
    item.isUnavailable = false ∧ item.text ≠ some notice := by
  have same := unambiguous.entries_eq (accepted_conceal accepted) (by
    rw [← List.map_singleton, ← List.map_append, prompt_conceal, is_rendered])
  rw [← List.map_singleton, ← List.map_append, entries, ← is_items, List.map_map] at same
  exact plain_of_entry_conceal (List.map_inj_left.mp same item held)

/-- Two contexts as one whose text holds the marker of the second. -/
def merge (first second : ReplyChainItem) : ReplyChainItem :=
  { first with
    isUnavailable := false
    text := some (body first ++ "\n\n[CONTEXT]\n" ++ body second) }

theorem piece_merge {first second : ReplyChainItem} (first_context : first.isTarget = false)
    (second_context : second.isTarget = false) :
    piece (merge first second) = piece first ++ "\n\n" ++ piece second := by
  have marked_alike : marker (merge first second) = "[CONTEXT]" :=
    marker_eq_context first_context
  have joined : body (merge first second) = body first ++ "\n\n[CONTEXT]\n" ++ body second := rfl
  have spelled : ("\n\n[CONTEXT]\n" : String) = "\n\n" ++ ("[CONTEXT]" ++ "\n") := rfl
  rw [piece, piece, piece, marked_alike, marker_eq_context first_context,
    marker_eq_context second_context, joined, spelled]
  simp only [String.append_assoc]

theorem prompt_merge {first second : ReplyChainItem} (first_context : first.isTarget = false)
    (second_context : second.isTarget = false) (more : items ≠ []) :
    prompt (merge first second :: items) = prompt (first :: second :: items) := by
  rw [prompt_cons more, prompt_cons (by simp), prompt_cons more,
    piece_merge first_context second_context]
  simp only [String.append_assoc]

theorem accepted_merge {first second : ReplyChainItem}
    (accepted : Accepted (first :: second :: contexts) target) :
    Accepted (merge first second :: contexts) target where
  bounded := Nat.lt_of_succ_lt accepted.bounded
  marked := accepted.marked
  others := by
    intro item held
    rcases List.mem_cons.mp held with rfl | later
    · exact accepted.others first List.mem_cons_self
    · exact accepted.others item (List.mem_cons_of_mem _ (List.mem_cons_of_mem _ later))
  visible := by
    intro item held
    rcases List.mem_cons.mp held with rfl | later
    · rfl
    · exact accepted.visible item (List.mem_cons_of_mem _ (List.mem_cons_of_mem _ later))

/-- An unambiguous chain has one context at most: two could be one that imitates them. -/
theorem Unambiguous.short (unambiguous : Unambiguous chain rendered)
    (is_items : chain.items = contexts ++ [target]) (accepted : Accepted contexts target)
    (is_rendered : rendered = prompt (contexts ++ [target])) : contexts.length ≤ 1 := by
  rcases contexts with _ | ⟨first, _ | ⟨second, contexts⟩⟩
  · exact Nat.zero_le 1
  · exact Nat.le_refl 1
  · have same := unambiguous.entries_eq (accepted_merge accepted) (by
      rw [is_rendered, List.cons_append, prompt_merge
        (accepted.others first (by simp)) (accepted.others second (by simp)) (by simp)]
      rfl)
    have lengths := congrArg List.length same
    rw [entries, is_items] at lengths
    simp at lengths

/-- The same item, available with another text. -/
def retell (item : ReplyChainItem) (text : String) : ReplyChainItem :=
  { item with isUnavailable := false, text := some text }

/-- A context that embeds another one is two contexts merged. -/
theorem merge_retell {before after : String} (available : item.isUnavailable = false)
    (is_text : item.text = some (before ++ "\n\n[CONTEXT]\n" ++ after)) :
    merge (retell item before) (retell item after) = item := by
  cases item
  cases available
  cases is_text
  rfl

theorem accepted_retell {context : ReplyChainItem} (accepted : Accepted [context] target)
    (before after : String) : Accepted [retell context before, retell context after] target where
  bounded := by simp
  marked := accepted.marked
  others := by
    have unmarked : context.isTarget = false := accepted.others context (by simp)
    intro item held
    rcases List.mem_pair.mp held with rfl | rfl
    · exact unmarked
    · exact unmarked
  visible := by
    intro item held
    rcases List.mem_append.mp held with is_context | is_target
    · rcases List.mem_pair.mp is_context with rfl | rfl
      · rfl
      · rfl
    · exact accepted.visible item (List.mem_append_right _ is_target)

/-- The context of an unambiguous chain does not start another one in its text. -/
theorem Unambiguous.noContext {context : ReplyChainItem} (unambiguous : Unambiguous chain rendered)
    (is_items : chain.items = [context, target]) (accepted : Accepted [context] target)
    (is_rendered : rendered = prompt [context, target]) (is_text : context.text = some text) :
    ¬ Embeds text := by
  rintro ⟨before, after, rfl⟩
  have unmarked : context.isTarget = false := accepted.others context (by simp)
  have available : context.isUnavailable = false :=
    (unambiguous.plain is_items accepted is_rendered (by simp [is_items])).1
  have same_prompt : prompt [retell context before, retell context after, target] = rendered := by
    have merged := @prompt_merge [target] (retell context before) (retell context after)
      unmarked unmarked (by simp)
    rw [← merged, merge_retell available is_text, is_rendered]
  have same := unambiguous.entries_eq (accepted_retell accepted before after) same_prompt
  have lengths := congrArg List.length same
  rw [entries, is_items] at lengths
  simp at lengths

theorem Unambiguous.distinguishable (unambiguous : Unambiguous chain rendered)
    (is_items : chain.items = contexts ++ [target]) (accepted : Accepted contexts target)
    (is_rendered : rendered = prompt (contexts ++ [target])) : Distinguishable chain where
  short := by
    have short := unambiguous.short is_items accepted is_rendered
    rw [is_items, List.length_append, List.length_singleton]
    omega
  available := fun _ held => (unambiguous.plain is_items accepted is_rendered held).1
  noNotice := fun _ held => (unambiguous.plain is_items accepted is_rendered held).2
  noTarget := by
    intro item held text is_text
    have available := (unambiguous.plain is_items accepted is_rendered held).1
    have is_body : body item = text := by simp [body, shown, available, is_text]
    have one := unambiguous.oneTarget
    rw [is_rendered, oneTarget_iff accepted, ← is_items] at one
    rw [← is_body]
    exact one item held
  noContext := by
    intro item held unmarked text is_text
    have short := unambiguous.short is_items accepted is_rendered
    rw [is_items] at held
    rcases contexts with _ | ⟨context, _ | ⟨_, _⟩⟩
    · obtain rfl := List.mem_singleton.mp held
      rw [accepted.marked] at unmarked
      cases unmarked
    · rcases List.mem_pair.mp held with rfl | rfl
      · exact unambiguous.noContext is_items accepted is_rendered is_text
      · rw [accepted.marked] at unmarked
        cases unmarked
    · simp at short

/-! ### Reading a prompt -/

/-- The body of a plain item is its text. -/
theorem text_eq_body (visible : (shown item).isSome) (available : item.isUnavailable = false) :
    item.text = some (body item) := by
  rw [← shown_eq_body visible, shown, available]
  rfl

/-- A plain item is known by its body among the items with its marker. -/
theorem entry_eq_of_body_eq {alike : ReplyChainItem} (visible : (shown item).isSome)
    (visible' : (shown alike).isSome) (available : item.isUnavailable = false)
    (noNotice : item.text ≠ some notice) (same_marker : alike.isTarget = item.isTarget)
    (same_body : body alike = body item) : entry alike = entry item := by
  have is_text := text_eq_body visible available
  have available' : alike.isUnavailable = false := by
    rw [Bool.eq_false_iff]
    intro unavailable
    have is_notice : body alike = notice := by simp [body, shown, unavailable]
    rw [is_text, ← same_body, is_notice] at noNotice
    exact noNotice rfl
  unfold entry
  rw [same_marker, available, available', is_text, text_eq_body visible' available', same_body]

/-- A prompt with one target line is cut there in one way only. -/
theorem parts_eq_of_prompt_eq {contexts' : List ReplyChainItem} {target' : ReplyChainItem}
    (accepted : Accepted contexts target) (accepted' : Accepted contexts' target')
    (noTarget : ∀ item ∈ contexts ++ [target], targetLine ∉ lines (body item))
    (same : prompt (contexts' ++ [target']) = prompt (contexts ++ [target])) :
    preface contexts' = preface contexts ∧ body target' = body target := by
  have none_above : targetLine ∉ preface contexts := by
    rw [target_mem_preface accepted.others]
    rintro ⟨item, in_contexts, imitated⟩
    exact noTarget item (List.mem_append_left _ in_contexts) imitated
  have none_below : targetLine ∉ lines (body target) := noTarget target (by simp)
  have same_lines := congrArg lines same.symm
  rw [lines_prompt, lines_prompt, lines_piece_target accepted.marked,
    lines_piece_target accepted'.marked,
    List.append_cons_inj_of_notMem none_above none_below] at same_lines
  exact ⟨same_lines.1.symm, lines_injective same_lines.2.2.symm⟩

theorem piece_context (unmarked : item.isTarget = false) :
    piece item = "[CONTEXT]\n" ++ body item := by
  rw [piece, marker_eq_context unmarked]
  rfl

/-- The prompt of one context or more starts with a context marker. -/
theorem prompt_starts (unmarked : item.isTarget = false) :
    ∃ rest, prompt (item :: items) = "[CONTEXT]\n" ++ rest := by
  cases items with
  | nil => exact ⟨body item, piece_context unmarked⟩
  | cons next items =>
    refine ⟨body item ++ "\n\n" ++ prompt (next :: items), ?_⟩
    rw [prompt_cons (by simp), piece_context unmarked]
    simp only [String.append_assoc]

/-- A context that does not start another one is the only one with its prompt. -/
theorem eq_singleton_of_prompt_eq {context : ReplyChainItem}
    (unmarked : context.isTarget = false) (others : ∀ item ∈ contexts, item.isTarget = false)
    (some_context : contexts ≠ []) (noContext : ¬ Embeds (body context))
    (same : prompt contexts = prompt [context]) :
    ∃ alike, contexts = [alike] ∧ body alike = body context := by
  rcases contexts with _ | ⟨first, _ | ⟨second, contexts⟩⟩
  · exact absurd rfl some_context
  · refine ⟨first, rfl, ?_⟩
    rw [prompt_singleton, prompt_singleton, piece_context (others first (by simp)),
      piece_context unmarked] at same
    exact (String.append_right_inj _).mp same
  · obtain ⟨rest, second_starts⟩ := prompt_starts (others second (by simp))
    rw [prompt_cons (by simp), second_starts, prompt_singleton,
      piece_context (others first (by simp)), piece_context unmarked, String.append_assoc,
      String.append_assoc, String.append_right_inj] at same
    refine absurd ⟨body first, rest, ?_⟩ noContext
    rw [← same, String.append_assoc]
    rfl

theorem preface_ne_nil (some_context : contexts ≠ []) : preface contexts ≠ [] := by
  rw [preface_eq some_context]
  exact List.append_ne_nil_of_right_ne_nil _ (by simp)

/-- The contexts of another chain with the same lines above its target say the same. -/
theorem Distinguishable.contexts_eq {contexts' : List ReplyChainItem} {target' : ReplyChainItem}
    (distinguishable : Distinguishable chain) (is_items : chain.items = contexts ++ [target])
    (accepted : Accepted contexts target) (accepted' : Accepted contexts' target')
    (same : preface contexts' = preface contexts) : contexts'.map entry = contexts.map entry := by
  have short := distinguishable.short
  rw [is_items] at short
  rcases contexts with _ | ⟨context, _ | ⟨_, _⟩⟩
  · by_cases some_context : contexts' = []
    · rw [some_context]
    · exact absurd same (preface_ne_nil some_context)
  · have some_context : contexts' ≠ [] := by
      rintro rfl
      exact preface_ne_nil (List.cons_ne_nil context []) same.symm
    have held : context ∈ chain.items := by simp [is_items]
    have unmarked : context.isTarget = false := accepted.others context (by simp)
    have visible := accepted.visible context (by simp)
    have available := distinguishable.available context held
    obtain ⟨alike, rfl, same_body⟩ := eq_singleton_of_prompt_eq unmarked accepted'.others
      some_context
      (distinguishable.noContext context held unmarked _ (text_eq_body visible available))
      (prompt_eq_of_preface_eq some_context (by simp) same)
    have same_entry := entry_eq_of_body_eq visible (accepted'.visible alike (by simp)) available
      (distinguishable.noNotice context held)
      ((accepted'.others alike (by simp)).trans unmarked.symm) same_body
    simp [same_entry]
  · simp at short

theorem Distinguishable.unambiguous (distinguishable : Distinguishable chain)
    (is_items : chain.items = contexts ++ [target]) (accepted : Accepted contexts target)
    (is_rendered : rendered = prompt (contexts ++ [target])) : Unambiguous chain rendered := by
  have is_text (item : ReplyChainItem) (held : item ∈ contexts ++ [target]) :
      item.text = some (body item) :=
    text_eq_body (accepted.visible item held)
      (distinguishable.available item (is_items ▸ held))
  have noTarget (item : ReplyChainItem) (held : item ∈ contexts ++ [target]) :
      targetLine ∉ lines (body item) :=
    distinguishable.noTarget item (is_items ▸ held) _ (is_text item held)
  refine ⟨?_, ?_⟩
  · rw [is_rendered]
    exact (oneTarget_iff accepted).mpr noTarget
  · intro other is_accepted
    obtain ⟨contexts', target', is_other, accepted', same⟩ :=
      formatStage2Input_eq_ok.mp is_accepted
    obtain ⟨same_preface, same_target⟩ :=
      parts_eq_of_prompt_eq accepted accepted' noTarget (same.symm.trans is_rendered)
    have target_held : target ∈ chain.items := by simp [is_items]
    have same_entry := entry_eq_of_body_eq (accepted.visible target (by simp))
      (accepted'.visible target' (by simp)) (distinguishable.available target target_held)
      (distinguishable.noNotice target target_held)
      (accepted'.marked.trans accepted.marked.symm) same_target
    rw [entries, entries, is_other, is_items, List.map_append, List.map_append,
      distinguishable.contexts_eq is_items accepted accepted' same_preface,
      List.map_singleton, List.map_singleton, same_entry]

/-- The prompt of an accepted chain has one target line and one reading exactly when the chain is
distinguishable. -/
theorem unambiguous_iff_distinguishable (is_rendered : formatStage2Input chain = .ok rendered) :
    Unambiguous chain rendered ↔ Distinguishable chain := by
  obtain ⟨contexts, target, is_items, accepted, is_prompt⟩ := formatStage2Input_eq_ok.mp is_rendered
  constructor
  · exact fun unambiguous => unambiguous.distinguishable is_items accepted is_prompt
  · exact fun distinguishable => distinguishable.unambiguous is_items accepted is_prompt

/-! ### Chains without imitations -/

/-- An item that shows the notice only when it is unavailable, and no line of a marker. -/
structure Innocent (item : ReplyChainItem) : Prop where
  honest : item.text = some notice → item.isUnavailable = true
  noTarget : targetLine ∉ lines (body item)
  noContext : contextLine ∉ lines (body item)

theorem Innocent.unavailable_iff (innocent : Innocent item) (visible : (shown item).isSome) :
    item.isUnavailable = true ↔ body item = notice := by
  constructor
  · intro unavailable
    simp [body, shown, unavailable]
  · intro is_notice
    by_contra available
    have is_text := text_eq_body visible (by simpa using available)
    rw [is_notice] at is_text
    exact available (innocent.honest is_text)

/-- Innocent items are known by their marker and their body. -/
theorem Innocent.entry_eq {alike : ReplyChainItem} (innocent : Innocent item)
    (innocent' : Innocent alike) (visible : (shown item).isSome)
    (visible' : (shown alike).isSome) (same_marker : alike.isTarget = item.isTarget)
    (same_body : body alike = body item) : entry alike = entry item := by
  have same_notice : alike.isUnavailable = item.isUnavailable := by
    rw [Bool.eq_iff_iff, innocent'.unavailable_iff visible', innocent.unavailable_iff visible,
      same_body]
  unfold entry
  rw [same_marker, same_notice]
  by_cases gone : item.isUnavailable = true
  · rw [if_pos gone, if_pos gone]
  · have available : item.isUnavailable = false := by simpa using gone
    rw [text_eq_body visible available, text_eq_body visible' (same_notice.trans available),
      same_body]

theorem preface_cons (unmarked : item.isTarget = false) :
    preface (item :: contexts) =
      contextLine :: ((lines (body item) ++ [[]]) ++ preface contexts) := by
  unfold preface
  rw [List.flatMap_cons, lines_piece_context unmarked]
  rfl

/-- The lines above the target are empty or start with a context marker. -/
theorem preface_starts (others : ∀ item ∈ contexts, item.isTarget = false) :
    preface contexts = [] ∨ ∃ rest, preface contexts = contextLine :: rest := by
  cases contexts with
  | nil => exact .inl rfl
  | cons item contexts => exact .inr ⟨_, preface_cons (others item List.mem_cons_self)⟩

/-- Without imitations, the lines above the target are read as the contexts in one way. -/
theorem entries_eq_of_preface_eq {contexts' : List ReplyChainItem}
    (innocent : ∀ item ∈ contexts, Innocent item ∧ (shown item).isSome ∧ item.isTarget = false)
    (innocent' : ∀ item ∈ contexts', Innocent item ∧ (shown item).isSome ∧ item.isTarget = false)
    (same : preface contexts' = preface contexts) : contexts'.map entry = contexts.map entry := by
  induction contexts generalizing contexts' with
  | nil =>
    by_cases none_alike : contexts' = []
    · rw [none_alike]
    · exact absurd same (preface_ne_nil none_alike)
  | cons item contexts ih =>
    cases contexts' with
    | nil => exact absurd same.symm (preface_ne_nil (List.cons_ne_nil _ _))
    | cons alike contexts' =>
      obtain ⟨honest, visible, unmarked⟩ := innocent item List.mem_cons_self
      obtain ⟨honest', visible', unmarked'⟩ := innocent' alike List.mem_cons_self
      have later := fun other held => innocent other (List.mem_cons_of_mem _ held)
      have later' := fun other held => innocent' other (List.mem_cons_of_mem _ held)
      rw [preface_cons unmarked, preface_cons unmarked', List.cons_inj_right] at same
      have stops {rest : List ReplyChainItem}
          (others : ∀ item ∈ rest, Innocent item ∧ (shown item).isSome ∧ item.isTarget = false) :
          ∀ line, (preface rest).head? = some line → decide (line ≠ contextLine) = false := by
        intro line first
        rcases preface_starts fun other held => (others other held).2.2 with empty | ⟨_, starts⟩
        · rw [empty] at first
          cases first
        · rw [starts, List.head?_cons, Option.some.injEq] at first
          simp [first]
      have inside {own : ReplyChainItem} (honest : Innocent own) :
          ∀ line ∈ lines (body own) ++ [[]], decide (line ≠ contextLine) = true := by
        intro line held
        rw [decide_eq_true_eq]
        rintro rfl
        rcases List.mem_append.mp held with in_body | is_gap
        · exact honest.noContext in_body
        · exact absurd (List.mem_singleton.mp is_gap) (by decide)
      obtain ⟨same_body, same_rest⟩ := Numeral.append_inj_of_head (inside honest')
        (inside honest) (stops later') (stops later) same
      have bodies : body alike = body item :=
        lines_injective (List.append_cancel_right same_body)
      rw [List.map_cons, List.map_cons, ih later later' same_rest,
        honest.entry_eq honest' visible visible' (unmarked'.trans unmarked.symm) bodies]

/-- Two chains of any length without imitations that have the same prompt say the same. -/
theorem entries_eq_of_innocent (innocent : ∀ item ∈ chain.items, Innocent item)
    (innocent' : ∀ item ∈ other.items, Innocent item)
    (accepted : formatStage2Input chain = .ok rendered)
    (accepted' : formatStage2Input other = .ok rendered) : entries other = entries chain := by
  obtain ⟨contexts, target, is_items, accepted, is_prompt⟩ := formatStage2Input_eq_ok.mp accepted
  obtain ⟨contexts', target', is_other, accepted', is_prompt'⟩ :=
    formatStage2Input_eq_ok.mp accepted'
  rw [is_items] at innocent
  rw [is_other] at innocent'
  obtain ⟨same_preface, same_target⟩ := parts_eq_of_prompt_eq accepted accepted'
    (fun item held => (innocent item held).noTarget) (is_prompt'.symm.trans is_prompt)
  have same_entry := (innocent target (by simp)).entry_eq (innocent' target' (by simp))
    (accepted.visible target (by simp)) (accepted'.visible target' (by simp))
    (accepted'.marked.trans accepted.marked.symm) same_target
  have same_contexts := entries_eq_of_preface_eq
    (fun item held => ⟨innocent item (List.mem_append_left _ held),
      accepted.visible item (List.mem_append_left _ held), accepted.others item held⟩)
    (fun item held => ⟨innocent' item (List.mem_append_left _ held),
      accepted'.visible item (List.mem_append_left _ held), accepted'.others item held⟩)
    same_preface
  rw [entries, entries, is_other, is_items, List.map_append, List.map_append, same_contexts,
    List.map_singleton, List.map_singleton, same_entry]

/-! ### Concrete chains -/

/-- A message of the sample chains. -/
def sampleItem (text : String) (isTarget : Bool) : ReplyChainItem where
  telegramMessageId := 1
  replyToMessageId := none
  topicId := none
  replyToTopMessageId := none
  authorTelegramId := none
  authorDisplayName := none
  telegramCreatedAt := none
  text := some text
  isTarget := isTarget

def sampleChain (texts : List String) (question : String) : ReplyChain where
  chatId := -1001
  items := texts.map (fun text => sampleItem text false) ++ [sampleItem question true]

theorem distinguishable_sample : Distinguishable (sampleChain ["parent"] "How?\nI ask") where
  short := by decide
  available := by decide
  noNotice := by decide
  noTarget := by
    intro item held text is_text
    rcases List.mem_pair.mp held with rfl | rfl
    · cases is_text
      decide
    · cases is_text
      decide
  noContext := by
    intro item held unmarked text is_text
    rcases List.mem_pair.mp held with rfl | rfl
    · cases is_text
      exact not_embeds_of_notMem (by decide)
    · cases unmarked

theorem unambiguous_sample :
    Unambiguous (sampleChain ["parent"] "How?\nI ask")
      "[CONTEXT]\nparent\n\n[TARGET]\nHow?\nI ask" :=
  (unambiguous_iff_distinguishable (by rfl)).mpr distinguishable_sample

/-- One context that holds a context marker is rendered like two contexts, and a target that holds
a target line has a second one. -/
theorem prompt_imitated :
    formatStage2Input (sampleChain ["a\n\n[CONTEXT]\nb"] "question") =
        formatStage2Input (sampleChain ["a", "b"] "question") ∧
      entries (sampleChain ["a\n\n[CONTEXT]\nb"] "question") ≠
        entries (sampleChain ["a", "b"] "question") ∧
      (∃ rendered, formatStage2Input (sampleChain [] "a\n[TARGET]\nb") = .ok rendered ∧
        (lines rendered).count targetLine = 2) := by
  refine ⟨by rfl, by decide, _, rfl, by decide⟩

end Stage2Input

end LeadAssistant
