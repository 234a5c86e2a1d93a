/-!
# Keeping each element at its first place

`List.eraseDups` keeps each element of a list at its first place.  It is what a list of hostnames
is compared with: merging sources one after the other comes to the same as joining them and keeping
first places once (`eraseDups_eraseDups_append`, `eraseDups_append_eraseDups`).

The law that makes a repeated merge harmless is `eraseDups_append_self`: elements that stand in
front already change nothing when they are met again behind.  That first places are what is kept is
said by `pairwise_idxOf_eraseDups`.
-/
namespace ForbiddenHosts.FirstPlaces

variable {α : Type} [BEq α] [LawfulBEq α]

theorem nodup_eraseDups : ∀ xs : List α, xs.eraseDups.Nodup
  | [] => List.nodup_nil
  | x :: xs => by
    rw [List.eraseDups_cons, List.nodup_cons]
    refine ⟨?_, nodup_eraseDups _⟩
    intro hx
    have hkept := (List.mem_filter.mp (List.mem_eraseDups.mp hx)).2
    simp at hkept
termination_by xs => xs.length
decreasing_by exact Nat.lt_succ_of_le (List.length_filter_le _ _)

theorem eraseDups_eq_self {xs : List α} (h : xs.Nodup) : xs.eraseDups = xs := by
  induction xs with
  | nil => rfl
  | cons x xs ih =>
    obtain ⟨hx, hxs⟩ := List.nodup_cons.mp h
    have hkeep : xs.filter (fun y => !y == x) = xs := by
      refine List.filter_eq_self.mpr ?_
      intro y hy
      have hne : y ≠ x := fun he => hx (he ▸ hy)
      simpa using hne
    rw [List.eraseDups_cons, hkeep, ih hxs]

@[simp] theorem eraseDups_idem (xs : List α) : xs.eraseDups.eraseDups = xs.eraseDups :=
  eraseDups_eq_self (nodup_eraseDups xs)

/-- What is removed is said by the members of a list alone. -/
theorem removeAll_congr {xs ys zs : List α} (h : ∀ a, a ∈ ys ↔ a ∈ zs) :
    xs.removeAll ys = xs.removeAll zs := by
  refine List.filter_congr ?_
  intro x _
  have hmem : ys.elem x = zs.elem x := by
    rw [Bool.eq_iff_iff, List.elem_iff, List.elem_iff]
    exact h x
  rw [hmem]

/-- Front places may be settled first. -/
theorem eraseDups_eraseDups_append (xs ys : List α) :
    (xs.eraseDups ++ ys).eraseDups = (xs ++ ys).eraseDups := by
  rw [List.eraseDups_append, List.eraseDups_append, eraseDups_idem,
    removeAll_congr fun _ => List.mem_eraseDups]

/-- Removing commutes with keeping first places. -/
theorem eraseDups_removeAll : ∀ xs ys : List α,
    (xs.eraseDups.removeAll ys) = (xs.removeAll ys).eraseDups
  | [], ys => by simp [List.removeAll]
  | x :: xs, ys => by
    have ih := eraseDups_removeAll (xs.filter fun y => !y == x) ys
    have hswap : (xs.filter fun y => !y == x).removeAll ys =
        (xs.removeAll ys).filter fun y => !y == x := by
      simp only [List.removeAll, List.filter_filter, Bool.and_comm]
    rw [List.eraseDups_cons, List.removeAll, List.filter_cons]
    -- Kept or removed, `x` takes its later copies with it on both sides.
    split
    · rename_i hx
      rw [List.removeAll, List.filter_cons_of_pos (by exact hx), List.eraseDups_cons]
      rw [hswap] at ih
      exact congrArg (x :: ·) ih
    · rename_i hx
      rw [List.removeAll, List.filter_cons_of_neg (by exact hx)]
      refine Eq.trans ih ?_
      rw [hswap]
      refine congrArg List.eraseDups (List.filter_eq_self.mpr ?_)
      intro y hy
      have hy' := (List.mem_filter.mp hy).2
      have hne : y ≠ x := fun he => hx (he ▸ hy')
      simpa using hne
termination_by xs => xs.length
decreasing_by exact Nat.lt_succ_of_le (List.length_filter_le _ _)

/-- Back places may be settled first. -/
theorem eraseDups_append_eraseDups (xs ys : List α) :
    (xs ++ ys.eraseDups).eraseDups = (xs ++ ys).eraseDups := by
  rw [List.eraseDups_append, List.eraseDups_append, eraseDups_removeAll, eraseDups_idem]

theorem removeAll_eq_nil {xs ys : List α} (h : ∀ a ∈ xs, a ∈ ys) : xs.removeAll ys = [] := by
  refine List.filter_eq_nil_iff.mpr ?_
  intro a ha
  simpa using h a ha

/-- **Meeting the front again changes nothing.** -/
theorem eraseDups_append_self (xs ys : List α) :
    (xs ++ (xs ++ ys)).eraseDups = (xs ++ ys).eraseDups := by
  have hself : (xs ++ ys).removeAll xs = ys.removeAll xs := by
    rw [List.removeAll, List.filter_append]
    exact (congrArg (· ++ ys.removeAll xs) (removeAll_eq_nil fun _ ha => ha)).trans rfl
  rw [List.eraseDups_append, hself, ← List.eraseDups_append]

/-- What is kept stands in the order of its first places. -/
theorem pairwise_idxOf_eraseDups (xs : List α) :
    xs.eraseDups.Pairwise fun a b => xs.idxOf a < xs.idxOf b := by
  induction xs with
  | nil => exact List.Pairwise.nil
  | cons x xs ih =>
    -- the later copies of `x` may be removed after first places are kept
    have htail : (xs.filter fun y => !y == x).eraseDups = xs.eraseDups.filter fun y => !y == x := by
      have hremove (ys : List α) : (ys.filter fun y => !y == x) = ys.removeAll [x] := by
        simp [List.removeAll]
      rw [hremove, hremove, eraseDups_removeAll]
    have hlater (b : α) (hb : b ∈ xs.eraseDups.filter fun y => !y == x) :
        (x :: xs).idxOf b = xs.idxOf b + 1 := by
      have hne : (b == x) = false := by simpa using (List.mem_filter.mp hb).2
      rw [List.idxOf_cons, BEq.comm, hne, cond_false]
    rw [List.eraseDups_cons, htail, List.pairwise_cons]
    constructor
    · intro b hb
      rw [List.idxOf_cons_self, hlater b hb]
      exact Nat.succ_pos _
    · refine List.Pairwise.imp_of_mem ?_ (ih.filter _)
      intro a b ha hb hab
      rw [hlater a ha, hlater b hb]
      exact Nat.succ_lt_succ hab

end ForbiddenHosts.FirstPlaces
