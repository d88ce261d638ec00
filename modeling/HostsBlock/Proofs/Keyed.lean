import HostsBlock.Keyed
import Mathlib.Data.String.Basic

/-!
# What a list in the order of a key says

A list in the order of a key is made to be asked for the element of a key, and `find?` is the
question. This file says what it answers, without the order: after an insertion it finds the new
element under its key and what was there before under all others, so of a list made of many it
gives the last one with the key.

The order comes in at the other end. A list that is strictly increasing in its key is determined by
the answers, `eq_of_find?_eq`. So **lists made of the same elements are equal as soon as they give
the same answers**, in whatever order and how often the elements were put in.
-/

namespace HostsBlock.Keyed

variable {α : Type} {key : α → String}

/-! ## What is in such a list -/

theorem mem_of_mem_insert {x y : α} {xs : List α} (h : y ∈ insert key x xs) :
    y = x ∨ y ∈ xs := by
  induction xs with
  | nil => exact Or.inl (List.mem_singleton.mp h)
  | cons z zs ih =>
      rw [insert] at h
      split at h
      · exact List.mem_cons.mp h
      · split at h
        · rcases List.mem_cons.mp h with rfl | h
          · exact Or.inl rfl
          · exact Or.inr (List.mem_cons_of_mem z h)
        · rcases List.mem_cons.mp h with rfl | h
          · exact Or.inr List.mem_cons_self
          · exact (ih h).imp_right (List.mem_cons_of_mem z)

/-! ## What is found -/

theorem find?_cons_of_eq {x : α} (xs : List α) {k : String} (h : key x = k) :
    find? key k (x :: xs) = some x :=
  List.find?_cons_of_pos (beq_iff_eq.mpr h)

theorem find?_cons_of_ne {x : α} (xs : List α) {k : String} (h : key x ≠ k) :
    find? key k (x :: xs) = find? key k xs :=
  List.find?_cons_of_neg (by rw [beq_iff_eq]; exact h)

theorem key_eq_of_find? {x : α} {xs : List α} {k : String} (h : find? key k xs = some x) :
    key x = k := by
  unfold find? at h
  have hkey := List.find?_some h
  exact beq_iff_eq.mp hkey

theorem mem_of_find? {x : α} {xs : List α} {k : String} (h : find? key k xs = some x) :
    x ∈ xs := List.mem_of_find?_eq_some h

theorem find?_of_mem_unique {x : α} {xs : List α} (hx : x ∈ xs)
    (hunique : ∀ y ∈ xs, key y = key x → y = x) : find? key (key x) xs = some x := by
  cases hfind : find? key (key x) xs with
  | none =>
      have hnone := List.find?_eq_none.mp hfind x hx
      exact absurd (beq_iff_eq.mpr rfl) hnone
  | some y => rw [hunique y (mem_of_find? hfind) (key_eq_of_find? hfind)]

theorem find?_eq_none_iff {xs : List α} {k : String} :
    find? key k xs = none ↔ ∀ x ∈ xs, key x ≠ k := by
  unfold find?
  rw [List.find?_eq_none]
  simp only [beq_iff_eq, ne_eq]

/-- **An insertion is found under its key**, and leaves the other keys alone. -/
theorem find?_insert (x : α) (xs : List α) (k : String) :
    find? key k (insert key x xs) = if key x = k then some x else find? key k xs := by
  induction xs with
  | nil =>
      rw [insert]
      split
      · rename_i hk
        exact find?_cons_of_eq [] hk
      · rename_i hk
        exact find?_cons_of_ne [] hk
  | cons y ys ih =>
      rw [insert]
      split
      · -- in front of all
        split
        · rename_i hk
          exact find?_cons_of_eq _ hk
        · rename_i hk
          exact find?_cons_of_ne _ hk
      · split
        · -- in the place of an element of its key
          rename_i hy
          split
          · rename_i hk
            exact find?_cons_of_eq _ hk
          · rename_i hk
            rw [find?_cons_of_ne _ hk, find?_cons_of_ne _ (hy ▸ hk)]
        · -- further back; the element in front has another key
          rename_i hy
          by_cases hk : key y = k
          · rw [find?_cons_of_eq _ hk, find?_cons_of_eq _ hk,
              if_neg (fun h => hy (h.trans hk.symm))]
          · rw [find?_cons_of_ne _ hk, find?_cons_of_ne _ hk, ih]

/-- **The last element of a key is the one that is found.** -/
theorem find?_ofList (xs : List α) (k : String) :
    find? key k (ofList key xs) = find? key k xs.reverse := by
  have hfold : ∀ (xs sorted : List α),
      find? key k (xs.foldl (fun sorted x => insert key x sorted) sorted)
        = (find? key k xs.reverse).or (find? key k sorted) := by
    intro xs
    induction xs with
    | nil => intro sorted; rfl
    | cons x xs ih =>
        intro sorted
        have hlast : find? key k (xs.reverse ++ [x])
            = (find? key k xs.reverse).or (find? key k [x]) := List.find?_append
        rw [List.foldl_cons, ih, find?_insert, List.reverse_cons, hlast, Option.or_assoc]
        congr 1
        split
        · rename_i hk
          rw [find?_cons_of_eq [] hk, Option.some_or]
        · rename_i hk
          rw [find?_cons_of_ne [] hk]
          rfl
  have hall := hfold xs []
  rwa [show find? key k ([] : List α) = none from rfl, Option.or_none] at hall

/-! ## The order -/

/-- Strictly increasing in the key. -/
def Sorted (key : α → String) (xs : List α) : Prop := xs.Pairwise fun x y => key x < key y

theorem sorted_insert {x : α} {xs : List α} (h : Sorted key xs) :
    Sorted key (insert key x xs) := by
  induction xs with
  | nil => exact List.pairwise_singleton _ x
  | cons y ys ih =>
      obtain ⟨hy, hys⟩ := List.pairwise_cons.mp h
      rw [insert]
      split
      · rename_i hxy
        refine List.pairwise_cons.mpr ⟨?_, h⟩
        exact List.forall_mem_cons.mpr ⟨hxy, fun z hz => lt_trans hxy (hy z hz)⟩
      · rename_i hnlt
        split
        · rename_i hxy
          exact List.pairwise_cons.mpr ⟨fun z hz => hxy ▸ hy z hz, hys⟩
        · rename_i hne
          have hyx : key y < key x := lt_of_le_of_ne (not_lt.mp hnlt) (Ne.symm hne)
          refine List.pairwise_cons.mpr ⟨fun z hz => ?_, ih hys⟩
          rcases mem_of_mem_insert hz with rfl | hz
          · exact hyx
          · exact hy z hz

theorem sorted_ofList (xs : List α) : Sorted key (ofList key xs) := by
  have hfold : ∀ (xs sorted : List α), Sorted key sorted →
      Sorted key (xs.foldl (fun sorted x => insert key x sorted) sorted) := by
    intro xs
    induction xs with
    | nil => intro sorted h; exact h
    | cons x xs ih => intro sorted h; exact ih _ (sorted_insert h)
  exact hfold xs [] List.Pairwise.nil

/-- An element with a new key goes between those with smaller keys and those with larger ones. -/
theorem Sorted.insert_of_new {x : α} {xs : List α} (h : Sorted key xs)
    (hnew : ∀ y ∈ xs, key y ≠ key x) :
    ∃ smaller larger, xs = smaller ++ larger ∧ insert key x xs = smaller ++ x :: larger
      ∧ (∀ y ∈ smaller, key y < key x) ∧ ∀ y ∈ larger, key x < key y := by
  induction xs with
  | nil => exact ⟨[], [], rfl, rfl, nofun, nofun⟩
  | cons y ys ih =>
      obtain ⟨hy, hys⟩ := List.pairwise_cons.mp h
      obtain ⟨hne, hnews⟩ := List.forall_mem_cons.mp hnew
      rcases lt_or_gt_of_ne hne with hlt | hgt
      · obtain ⟨smaller, larger, rfl, hinsert, hsmaller, hlarger⟩ := ih hys hnews
        refine ⟨y :: smaller, larger, rfl, ?_, List.forall_mem_cons.mpr ⟨hlt, hsmaller⟩, hlarger⟩
        rw [insert, if_neg (lt_asymm hlt), if_neg (Ne.symm hne), hinsert, List.cons_append]
      · refine ⟨[], y :: ys, rfl, ?_, nofun, ?_⟩
        · rw [insert, if_pos hgt, List.nil_append]
        · exact List.forall_mem_cons.mpr ⟨hgt, fun z hz => lt_trans hgt (hy z hz)⟩

theorem Sorted.eq_of_key_eq {xs : List α} (h : Sorted key xs) {x y : α} (hx : x ∈ xs)
    (hy : y ∈ xs) (hkey : key x = key y) : x = y := by
  induction xs with
  | nil => exact absurd hx (by simp)
  | cons z zs ih =>
      obtain ⟨hz, hzs⟩ := List.pairwise_cons.mp h
      rcases List.mem_cons.mp hx with rfl | hx'
      · rcases List.mem_cons.mp hy with rfl | hy'
        · rfl
        · exact absurd (hkey ▸ hz y hy') (lt_irrefl _)
      · rcases List.mem_cons.mp hy with rfl | hy'
        · exact absurd (hkey ▸ hz x hx') (lt_irrefl _)
        · exact ih hzs hx' hy'

theorem Sorted.mem_iff {xs : List α} (h : Sorted key xs) {x : α} :
    x ∈ xs ↔ find? key (key x) xs = some x := by
  constructor
  · intro hx
    exact find?_of_mem_unique hx fun y hy hkey => h.eq_of_key_eq hy hx hkey
  · exact mem_of_find?

theorem mem_ofList (hkey : Function.Injective key) {x : α} {xs : List α} :
    x ∈ ofList key xs ↔ x ∈ xs := by
  rw [(sorted_ofList xs).mem_iff, find?_ofList]
  constructor
  · intro hfind
    exact List.mem_reverse.mp (mem_of_find? hfind)
  · intro hx
    exact find?_of_mem_unique (List.mem_reverse.mpr hx) fun y _ hy => hkey hy

theorem Sorted.nodup {xs : List α} (h : Sorted key xs) : xs.Nodup := by
  refine List.Pairwise.imp ?_ h
  rintro x y hlt rfl
  exact lt_irrefl _ hlt

theorem Sorted.eq_of_mem_iff {xs ys : List α} (hxs : Sorted key xs) (hys : Sorted key ys)
    (h : ∀ x, x ∈ xs ↔ x ∈ ys) : xs = ys := by
  have hperm := (List.perm_ext_iff_of_nodup hxs.nodup hys.nodup).mpr h
  exact hperm.eq_of_pairwise (fun x y _ _ hxy hyx => absurd hyx (lt_asymm hxy)) hxs hys

/-- **Ordered lists in which the same is found are equal.** -/
theorem eq_of_find?_eq {xs ys : List α} (hxs : Sorted key xs) (hys : Sorted key ys)
    (h : ∀ k, find? key k xs = find? key k ys) : xs = ys := by
  refine hxs.eq_of_mem_iff hys fun x => ?_
  rw [hxs.mem_iff, hys.mem_iff, h]

end HostsBlock.Keyed
