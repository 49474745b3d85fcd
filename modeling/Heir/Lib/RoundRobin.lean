import Mathlib.Data.Fintype.EquivFin
import Mathlib.Data.Int.CardIntervalMod
import Mathlib.Tactic

set_option autoImplicit false

/-! # Round robin with a cursor that wraps

A round robin over `n` places starts at a cursor and looks at `n` consecutive values of it, each
modulo `n`. The cursor itself counts modulo `m`. Where it does not wrap within one turn, the values
are consecutive and so are their residues; where it does, the residues jump from `(m - 1) % n` back to
`0`, which is no jump only if `n` divides `m`.
-/

namespace RoundRobin

/-- The place looked at in step `i` of a turn that begins at `start`. -/
def place (m n start i : Nat) : Nat := (start + i) % m % n

/-- A turn looks at every place. -/
def Covers (m n start : Nat) : Prop := ∀ r, r < n → ∃ i, i < n ∧ place m n start i = r

variable {m n start : Nat}

theorem place_lt (hn : 0 < n) (i : Nat) : place m n start i < n := Nat.mod_lt _ hn

theorem place_of_lt {i : Nat} (h : start + i < m) : place m n start i = (start + i) % n := by
  rw [place, Nat.mod_eq_of_lt h]

theorem place_of_ge {i : Nat} (h : m ≤ start + i) (h' : start + i < 2 * m) :
    place m n start i = (start + i - m) % n := by
  have hmod : (start + i) % m = start + i - m := by
    rw [Nat.mod_eq_sub_mod h, Nat.mod_eq_of_lt (by omega)]
  rw [place, hmod]

/-- If the places are those of an unbounded cursor, all are looked at. -/
theorem covers_of_place_eq (hn : 0 < n)
    (h : ∀ i, i < n → place m n start i = (start + i) % n) : Covers m n start := by
  intro r hr
  have hlt : start % n < n := Nat.mod_lt _ hn
  refine ⟨(r + (n - start % n)) % n, Nat.mod_lt _ hn, ?_⟩
  calc place m n start ((r + (n - start % n)) % n)
      = (start + (r + (n - start % n)) % n) % n := h _ (Nat.mod_lt _ hn)
    _ = (start % n + (r + (n - start % n))) % n := by simp [Nat.add_mod]
    _ = (r + n) % n := by congr 1; omega
    _ = r := by rw [Nat.add_mod_right, Nat.mod_eq_of_lt hr]

theorem Covers.injective (hn : 0 < n) (h : Covers m n start) {i j : Nat} (hi : i < n) (hj : j < n)
    (heq : place m n start i = place m n start j) : i = j := by
  let f : Fin n → Fin n := fun i => ⟨place m n start i, place_lt hn i⟩
  have hsurjective : Function.Surjective f := by
    intro r
    obtain ⟨i, hi, hplace⟩ := h r r.isLt
    exact ⟨⟨i, hi⟩, Fin.ext hplace⟩
  have hinjective : Function.Injective f := Finite.injective_iff_surjective.mpr hsurjective
  have hfin : (⟨i, hi⟩ : Fin n) = ⟨j, hj⟩ := hinjective (Fin.ext heq)
  exact congrArg Fin.val hfin

/-- A turn in which the cursor wraps looks at some place twice, unless `n` divides `m`. -/
theorem dvd_of_covers_of_wraps (hn : 0 < n) (hnm : n ≤ m) (hstart : start < m)
    (hwrap : m < start + n) (h : Covers m n start) : n ∣ m := by
  -- `j` steps are made before the cursor wraps, `last` is the place of the last of them
  obtain ⟨j, hj⟩ : ∃ j, start + j = m := ⟨m - start, by omega⟩
  obtain ⟨last, hlast⟩ : ∃ last, (m - 1) % n = last := ⟨_, rfl⟩
  have hlt : last < n := hlast ▸ Nat.mod_lt _ hn
  obtain ⟨q, hq⟩ : ∃ q, m - 1 = n * q + last :=
    ⟨(m - 1) / n, by rw [← hlast, Nat.div_add_mod]⟩
  have hbefore : ∀ i c, i < j → start + i = n * q + c → c < n → place m n start i = c := by
    intro i c hi hc hcn
    rw [place_of_lt (by omega), hc, Nat.mul_add_mod, Nat.mod_eq_of_lt hcn]
  have hafter : ∀ i, j ≤ i → i < n → place m n start i = i - j := by
    intro i hi hin
    rw [place_of_ge (by omega) (by omega), Nat.mod_eq_of_lt (by omega)]
    omega
  by_cases hend : last = n - 1
  · exact ⟨q + 1, by rw [Nat.mul_add, Nat.mul_one]; omega⟩
  exfalso
  rcases Nat.lt_or_ge last (n - j) with hcase | hcase
  · -- the last place before the wrap is looked at again after it
    have heq : j - 1 = j + last := h.injective hn (by omega) (by omega) (by
      rw [hbefore (j - 1) last (by omega) (by omega) hlt, hafter (j + last) (by omega) (by omega)]
      omega)
    omega
  · rcases Nat.lt_or_ge last (j - 1) with hfirst | hfirst
    · -- the place 0 is looked at before the wrap as well
      have heq : j - 1 - last = j := h.injective hn (by omega) (by omega) (by
        rw [hbefore (j - 1 - last) 0 (by omega) (by omega) hn, hafter j le_rfl (by omega)]
        omega)
      omega
    · -- the first place of the turn is looked at again
      have heq : 0 = last + 1 := h.injective hn hn (by omega) (by
        rw [hbefore 0 (last + 1 - j) (by omega) (by omega) (by omega),
          hafter (last + 1) (by omega) (by omega)])
      omega

/-- **When a turn is complete.** -/
theorem covers_iff (hn : 0 < n) (hnm : n ≤ m) (hstart : start < m) :
    Covers m n start ↔ start + n ≤ m ∨ n ∣ m := by
  constructor
  · intro h
    rcases Nat.lt_or_ge m (start + n) with hwrap | hfits
    · exact Or.inr (dvd_of_covers_of_wraps hn hnm hstart hwrap h)
    · exact Or.inl hfits
  · rintro (hfits | hdvd)
    · exact covers_of_place_eq hn fun i hi => place_of_lt (by omega)
    · exact covers_of_place_eq hn fun i _ => Nat.mod_mod_of_dvd _ hdvd

/-! ## Turns in a row -/

theorem countP_mod_period {r : Nat} (hr : r < n) (a : Nat) :
    (List.range' a n).countP (fun x => x % n = r) = 1 := by
  have hperiodic : Function.Periodic (fun x => x % n = r) n := by
    intro x
    simp
  have hcount := Nat.filter_multiset_Ico_card_eq_of_periodic a n (fun x => x % n = r) hperiodic
  have hone : Nat.count (fun x => x % n = r) n = 1 := by
    have hmod := Nat.count_modEq_card n (show 0 < n by omega) r
    simp only [Nat.ModEq, Nat.mod_eq_of_lt hr, Nat.mod_self, Nat.not_lt_zero, if_false,
      Nat.div_self (show 0 < n by omega), Nat.add_zero] at hmod
    exact hmod
  rw [hone] at hcount
  simpa [Multiset.Ico, Finset.Ico, LocallyFiniteOrder.finsetIco, List.countP_eq_length_filter]
    using hcount

/-- **Fairness.** In `k` periods every residue occurs `k` times, wherever they begin. -/
theorem countP_mod {r : Nat} (hr : r < n) (a k : Nat) :
    (List.range' a (k * n)).countP (fun x => x % n = r) = k := by
  induction k generalizing a with
  | zero => simp
  | succ k ih =>
      have hsplit : List.range' a ((k + 1) * n) = List.range' a n ++ List.range' (a + n) (k * n) := by
        rw [List.range'_append_1, Nat.add_mul, Nat.one_mul, Nat.add_comm]
      rw [hsplit, List.countP_append, countP_mod_period hr, ih]
      omega

end RoundRobin
