import Mathlib

/-!
# Lists

Runs, histories and transcripts grow at their end, and what is said of an element of them is
said of its place: of what stands before it.  Two sequences are compared element by element.
-/

namespace TickArena

/-- An element stands at the end of a list, or it stands before it. -/
theorem concat_eq_append_cons_iff {α : Type} {list earlier later : List α} {last element : α} :
    list ++ [last] = earlier ++ element :: later ↔
      (list = earlier ∧ last = element ∧ later = []) ∨
        ∃ rest, later = rest ++ [last] ∧ list = earlier ++ element :: rest := by
  constructor
  · intro hsplit
    rcases List.eq_nil_or_concat' later with rfl | ⟨rest, final, rfl⟩
    · obtain ⟨rfl, hlast⟩ := List.append_inj' hsplit rfl
      exact .inl ⟨rfl, List.singleton_inj.mp hlast, rfl⟩
    · rw [← List.cons_append, ← List.append_assoc] at hsplit
      obtain ⟨hlist, hfinal⟩ := List.append_inj' hsplit rfl
      obtain rfl := List.singleton_inj.mp hfinal
      exact .inr ⟨rest, rfl, hlist⟩
  · rintro (⟨rfl, rfl, rfl⟩ | ⟨rest, rfl, rfl⟩)
    · rfl
    · simp

theorem forall₂_of_map_eq {α β : Type} {f : α → β} {list list' : List α}
    (h : list.map f = list'.map f) : List.Forall₂ (fun a b => f a = f b) list list' := by
  rwa [← List.forall₂_eq_eq_eq, List.forall₂_map_left_iff, List.forall₂_map_right_iff] at h

theorem mapM_eq_some_iff {α β : Type} {f : α → Option β} {items : List α} {results : List β} :
    items.mapM f = some results ↔
      List.Forall₂ (fun item result => f item = some result) items results := by
  induction items generalizing results with
  | nil => simp [eq_comm]
  | cons item rest ih =>
    simp [List.forall₂_cons_left_iff, Option.bind_eq_some_iff, ih, @eq_comm _ _ results]

theorem exists_of_mem_mapM {α β : Type} {f : α → Option β} {items : List α} {results : List β}
    (h : items.mapM f = some results) {result : β} (hmem : result ∈ results) :
    ∃ item ∈ items, f item = some result := by
  induction mapM_eq_some_iff.mp h with
  | nil => contradiction
  | @cons first _ rest _ hfirst hrest ih =>
    rcases List.mem_cons.mp hmem with rfl | hlater
    · exact ⟨first, List.mem_cons_self, hfirst⟩
    · obtain ⟨item, hitem, hread⟩ := ih (mapM_eq_some_iff.mpr hrest) hlater
      exact ⟨item, List.mem_cons_of_mem _ hitem, hread⟩

theorem filter_eq_of_forall₂ {α : Type} {p : α → Bool} {list list' : List α}
    (h : List.Forall₂ (fun a b => p a = p b ∧ (p a = true → a = b)) list list') :
    list.filter p = list'.filter p := by
  induction h with
  | nil => rfl
  | @cons a b _ _ hfirst _ ih =>
    obtain ⟨hsame, heq⟩ := hfirst
    rw [List.filter_cons, List.filter_cons, ih, ← hsame]
    split_ifs with hpassed
    · rw [heq hpassed]
    · rfl

theorem flatMap_filter_of_nil {α β : Type} {p : α → Bool} {f : α → List β} {list : List α}
    (h : ∀ element ∈ list, p element = false → f element = []) :
    (list.filter p).flatMap f = list.flatMap f := by
  induction list with
  | nil => rfl
  | cons first rest ih =>
    obtain ⟨hfirst, hrest⟩ := List.forall_mem_cons.mp h
    rw [List.flatMap_cons, ← ih hrest]
    cases hpassed : p first with
    | true => rw [List.filter_cons_of_pos hpassed, List.flatMap_cons]
    | false => rw [List.filter_cons_of_neg (by simp [hpassed]), hfirst hpassed, List.nil_append]

theorem eraseDups_eq_self {α : Type} [BEq α] [LawfulBEq α] {list : List α} (h : list.Nodup) :
    list.eraseDups = list := by
  induction list with
  | nil => rfl
  | cons first rest ih =>
    obtain ⟨hfirst, hrest⟩ := List.nodup_cons.mp h
    have hkept : (rest.filter fun other => !other == first) = rest := by
      apply List.filter_eq_self.mpr
      rintro other hother
      have hne : other ≠ first := fun hsame => hfirst (hsame ▸ hother)
      simp [hne]
    rw [List.eraseDups_cons, hkept, ih hrest]

theorem argmax_append_cons {α β : Type} [LinearOrder β] {f : α → β} {earlier later : List α}
    {best : α} (hearlier : ∀ element ∈ earlier, f element < f best)
    (hlater : ∀ element ∈ later, f element ≤ f best) :
    (earlier ++ best :: later).argmax f = some best := by
  induction later using List.reverseRecOn with
  | nil =>
    rw [List.argmax_concat]
    cases hfound : earlier.argmax f with
    | none => rfl
    | some leader => exact if_pos (hearlier leader (List.argmax_mem hfound))
  | append_singleton later last ih =>
    rw [List.forall_mem_append, List.forall_mem_singleton] at hlater
    rw [← List.cons_append, ← List.append_assoc, List.argmax_concat, ih hlater.1]
    exact if_neg hlater.2.not_gt

theorem exists_append_cons_of_getElem? {α : Type} {list : List α} {index : Nat} {element : α}
    (h : list[index]? = some element) :
    ∃ earlier later, list = earlier ++ element :: later ∧ earlier.length = index := by
  obtain ⟨hindex, rfl⟩ := List.getElem?_eq_some_iff.mp h
  refine ⟨list.take index, list.drop (index + 1), ?_, List.length_take_of_le hindex.le⟩
  rw [List.getElem_cons_drop, List.take_append_drop]

end TickArena
