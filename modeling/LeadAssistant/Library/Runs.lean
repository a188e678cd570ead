/-
Module: LeadAssistant.Library.Runs
Layer: Library
Purpose: The maximal runs of a text whose characters are of one kind, for example its words and the
  gaps between them. Consecutive runs are found in a text where a part of it with these runs stands
  between changes of kind, and texts that agree with runs kind by kind are runs themselves.
Trusted boundary: none
Main exports: Runs.runs, Runs.Apart, Runs.Alike, Runs.runs_append, Runs.runs_of_alike,
  Runs.infix_runs
-/
import Mathlib.Data.List.SplitBy
import Mathlib.Data.List.Forall2

namespace Runs

variable {α : Type*} {kind : α → Bool} {text before after part run : List α}

/-- The maximal runs of characters of one kind. -/
def runs (kind : α → Bool) (text : List α) : List (List α) :=
  text.splitBy (fun c d => kind c == kind d)

/-- The kind changes from one text to the other, or one of them is empty. -/
def Apart (kind : α → Bool) (before after : List α) : Prop :=
  ∀ c ∈ before.getLast?, ∀ d ∈ after.head?, kind c ≠ kind d

/-- A text with characters that are all of the kind of the characters of another text. -/
def Alike (kind : α → Bool) (part run : List α) : Prop :=
  run ≠ [] ∧ ∀ c ∈ part, ∀ d ∈ run, kind c = kind d

@[simp] theorem flatten_runs (kind : α → Bool) (text : List α) : (runs kind text).flatten = text :=
  List.flatten_splitBy _ _

theorem runs_append (apart : Apart kind before after) :
    runs kind (before ++ after) = runs kind before ++ runs kind after := by
  apply List.splitBy_append
  intro c last d first
  exact beq_eq_false_iff_ne.2 (apart c last d first)

theorem ne_nil_of_mem (listed : run ∈ runs kind text) : run ≠ [] :=
  List.ne_nil_of_mem_splitBy listed

/-- The characters of a run are of one kind. -/
theorem uniform_of_mem (listed : run ∈ runs kind text) :
    ∀ c ∈ run, ∀ d ∈ run, kind c = kind d := by
  have chain := List.isChain_of_mem_splitBy listed
  have same : run.IsChain fun c d => kind c = kind d := chain.imp fun _ _ => beq_iff_eq.1
  have trans : IsTrans α fun c d => kind c = kind d := ⟨fun _ _ _ => Eq.trans⟩
  have symm : Std.Symm fun c d => kind c = kind d := ⟨fun _ _ => Eq.symm⟩
  intro c here d there
  exact List.Pairwise.forall_of_forall (R := fun c d => kind c = kind d) (fun _ _ => rfl)
    (List.isChain_iff_pairwise.1 same) here there

theorem isChain_of_uniform (uniform : ∀ c ∈ run, ∀ d ∈ run, kind c = kind d) :
    run.IsChain fun c d => (kind c == kind d) = true := by
  apply List.Pairwise.isChain
  apply List.pairwise_of_forall_mem_list
  intro c here d there
  exact beq_iff_eq.2 (uniform c here d there)

/-- A text of one kind is one run. -/
theorem runs_of_uniform (some_char : run ≠ [])
    (uniform : ∀ c ∈ run, ∀ d ∈ run, kind c = kind d) : runs kind run = [run] :=
  List.splitBy_of_isChain some_char (isChain_of_uniform uniform)

theorem Alike.uniform (alike : Alike kind part run) (some_char : part ≠ []) :
    ∀ c ∈ run, ∀ d ∈ run, kind c = kind d := by
  obtain ⟨b, here⟩ := List.exists_mem_of_ne_nil part some_char
  intro c first d second
  rw [← alike.2 b here c first, alike.2 b here d second]

/-- What holds of the pairs of two lists may use that their members are listed. -/
theorem forall₂_of_mem {β : Type*} {R S : α → β → Prop} {as : List α} {bs : List β}
    (pairs : List.Forall₂ R as bs) (each : ∀ a ∈ as, ∀ b ∈ bs, R a b → S a b) :
    List.Forall₂ S as bs := by
  induction pairs with
  | nil => exact .nil
  | cons here _ ih =>
      apply List.Forall₂.cons
      · exact each _ List.mem_cons_self _ List.mem_cons_self here
      · exact ih fun a there b listed =>
          each a (List.mem_cons_of_mem _ there) b (List.mem_cons_of_mem _ listed)

theorem of_mem_flatten {β : Type*} {R : β → List α → Prop} {parts : List β} {found : List (List α)}
    (pairs : List.Forall₂ R parts found) {c : α} (there : c ∈ found.flatten) :
    ∃ part ∈ parts, ∃ run, R part run ∧ c ∈ run := by
  induction pairs with
  | nil => exact absurd there List.not_mem_nil
  | @cons part run _ _ here _ ih =>
      rw [List.flatten_cons, List.mem_append] at there
      rcases there with first | behind
      · exact ⟨part, List.mem_cons_self, run, here, first⟩
      · obtain ⟨other, listed, rest⟩ := ih behind
        exact ⟨other, List.mem_cons_of_mem part listed, rest⟩

/-- Texts that agree kind by kind with the runs of a text are the runs of what they make up. -/
theorem runs_of_alike {found : List (List α)}
    (alike : List.Forall₂ (Alike kind) (runs kind text) found) :
    runs kind found.flatten = found := by
  have changes := List.isChain_getLast_head_splitBy (fun c d => kind c == kind d) text
  have filled : ∀ part ∈ runs kind text, part ≠ [] := fun _ => ne_nil_of_mem
  change (runs kind text).IsChain _ at changes
  generalize runs kind text = parts at alike changes filled
  induction alike with
  | nil => rfl
  | @cons part run parts found here rest ih =>
      have some_char := filled part List.mem_cons_self
      have tail := ih changes.tail fun other there => filled other (List.mem_cons_of_mem part there)
      have single := runs_of_uniform here.1 (here.uniform some_char)
      rw [List.flatten_cons, runs_append, single, tail, List.singleton_append]
      -- the kind changes where it changes between the parts
      intro c last d first
      cases rest with
      | nil => simp at first
      | @cons next other parts found there rest =>
          obtain ⟨some_last, some_first, change⟩ := (List.isChain_cons_cons.1 changes).1
          obtain ⟨e, others, rfl⟩ := List.exists_cons_of_ne_nil there.1
          obtain rfl : e = d := by simpa using first
          rw [← here.2 _ (List.getLast_mem some_last) c (List.mem_of_mem_getLast? last),
            ← there.2 _ (List.head_mem some_first) e List.mem_cons_self]
          exact beq_eq_false_iff_ne.1 change

/-- The kinds at the two ends of texts that agree kind by kind are the same. -/
theorem ends_of_alike {parts found : List (List α)} (alike : List.Forall₂ (Alike kind) parts found)
    (filled : ∀ part ∈ parts, part ≠ []) :
    found.flatten.head?.map kind = parts.flatten.head?.map kind ∧
      found.flatten.getLast?.map kind = parts.flatten.getLast?.map kind := by
  induction alike with
  | nil => exact ⟨rfl, rfl⟩
  | @cons part run parts found here rest ih =>
      obtain ⟨_, last⟩ := ih fun other there => filled other (List.mem_cons_of_mem part there)
      have some_part := filled part List.mem_cons_self
      have some_run := here.1
      rw [List.flatten_cons, List.flatten_cons]
      constructor
      · rw [List.head?_append, List.head?_append, List.head?_eq_some_head some_part,
          List.head?_eq_some_head some_run]
        exact congrArg some (here.2 _ (List.head_mem some_part) _ (List.head_mem some_run)).symm
      · rw [List.getLast?_append, List.getLast?_append, Option.map_or, Option.map_or, last,
          List.getLast?_eq_some_getLast some_part, List.getLast?_eq_some_getLast some_run]
        exact congrArg (Option.or _)
          (congrArg some (here.2 _ (List.getLast_mem some_part) _ (List.getLast_mem some_run)).symm)

theorem Apart.of_chain {parts others : List (List α)}
    (runs_are : runs kind text = parts ++ others) : Apart kind parts.flatten others.flatten := by
  have changes := List.isChain_getLast_head_splitBy (fun c d => kind c == kind d) text
  change (runs kind text).IsChain _ at changes
  have filled : ∀ part ∈ parts ++ others, part ≠ [] := fun _ there =>
    ne_nil_of_mem (runs_are ▸ there)
  rw [runs_are] at changes
  intro c last d first
  rcases List.eq_nil_or_concat parts with rfl | ⟨front, run, rfl⟩
  · simp at last
  · cases others with
    | nil => simp at first
    | cons next others =>
        rw [List.concat_eq_append, List.append_assoc, List.singleton_append] at changes
        have pair := (List.isChain_append_cons_cons.1 changes).2.1
        obtain ⟨some_last, some_first, change⟩ := pair
        have last : c = run.getLast some_last := by
          rw [List.concat_eq_append, List.flatten_append, List.flatten_singleton,
            List.getLast?_append, List.getLast?_eq_some_getLast some_last] at last
          simpa using last.symm
        have first : d = next.head some_first := by
          rw [List.flatten_cons, List.head?_append, List.head?_eq_some_head some_first] at first
          simpa using first.symm
        rw [last, first]
        exact beq_eq_false_iff_ne.1 change

/-- Consecutive runs of a text are the runs of a part of it that changes of kind set off. -/
theorem infix_runs {found : List (List α)} :
    found <:+: runs kind text ↔ ∃ before after, text = before ++ (found.flatten ++ after) ∧
      runs kind found.flatten = found ∧ Apart kind before (found.flatten ++ after) ∧
      Apart kind (before ++ found.flatten) after := by
  constructor
  · rintro ⟨front, back, whole⟩
    refine ⟨front.flatten, back.flatten, ?_, ?_, ?_, ?_⟩
    · rw [← List.flatten_append, ← List.flatten_append, ← List.append_assoc, whole, flatten_runs]
    · have changes := List.isChain_getLast_head_splitBy (fun c d => kind c == kind d) text
      have within : ∀ run ∈ found, run ∈ runs kind text := fun run there =>
        whole ▸ List.mem_append_left back (List.mem_append_right front there)
      apply List.splitBy_flatten
      · exact fun there => ne_nil_of_mem (within [] there) rfl
      · exact fun run there => List.isChain_of_mem_splitBy (within run there)
      · exact changes.infix ⟨front, back, whole⟩
    · rw [← List.flatten_append]
      exact Apart.of_chain (by rw [← whole, List.append_assoc])
    · rw [← List.flatten_append]
      exact Apart.of_chain whole.symm
  · rintro ⟨before, after, rfl, same, opens, closes⟩
    refine ⟨runs kind before, runs kind after, ?_⟩
    have behind : Apart kind found.flatten after := by
      intro c last
      exact closes c (by rw [List.getLast?_append, last]; rfl)
    rw [runs_append opens, runs_append behind, same, List.append_assoc]

end Runs
