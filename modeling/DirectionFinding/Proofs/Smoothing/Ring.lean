import DirectionFinding.Smoothing.Ring
import Mathlib.Data.List.Basic

/-!
A ring as the list of its values, oldest first. What a ring answers depends on this list alone, not
on where in its cells the values lie or on what other cells still hold.
-/
namespace DirectionFinding

namespace Ring

variable {α : Type} {n : Nat}

private theorem mod_wrapped {i : Nat} (wrapped : i < 2 * n) :
    i < n ∧ i % n = i ∨ n ≤ i ∧ i % n = i - n := by
  by_cases inside : i < n
  · exact .inl ⟨inside, Nat.mod_eq_of_lt inside⟩
  · refine .inr ⟨Nat.not_lt.mp inside, ?_⟩
    rw [Nat.mod_eq_sub_mod (Nat.not_lt.mp inside), Nat.mod_eq_of_lt (by omega)]

theorem next_cases (i : Fin n) :
    i.val + 1 < n ∧ (next i).val = i.val + 1 ∨ i.val + 1 = n ∧ (next i).val = 0 := by
  have inside := i.isLt
  rcases mod_wrapped (show i.val + 1 < 2 * n by omega) with ⟨inner, same⟩ | ⟨last, wrapped⟩
  · exact .inl ⟨inner, same⟩
  · refine .inr ⟨by omega, ?_⟩
    change (i.val + 1) % n = 0
    omega

private theorem length_cases (r : Ring α n) :
    r.tail.val ≤ r.head.val ∧ r.length + r.tail.val = r.head.val ∨
      r.head.val < r.tail.val ∧ r.length + r.tail.val = r.head.val + n := by
  have head := r.head.isLt
  have tail := r.tail.isLt
  simp only [length]
  rcases mod_wrapped (show r.head.val + n - r.tail.val < 2 * n by omega) with
    ⟨inner, same⟩ | ⟨outer, wrapped⟩ <;> omega

theorem length_lt (r : Ring α n) : r.length < n :=
  Nat.mod_lt _ r.head.pos

theorem isEmpty_iff (r : Ring α n) : r.isEmpty = true ↔ r.length = 0 := by
  have inside := r.head.isLt
  rw [isEmpty, beq_iff_eq, Fin.ext_iff]
  rcases r.length_cases with ⟨_, _⟩ | ⟨_, _⟩ <;> omega

theorem isFull_iff (r : Ring α n) : r.isFull = true ↔ r.length + 1 = n := by
  have inside := r.head.isLt
  have inside' := r.tail.isLt
  rw [isFull, beq_iff_eq, Fin.ext_iff]
  rcases r.length_cases with ⟨_, _⟩ | ⟨_, _⟩ <;>
    rcases next_cases r.head with ⟨_, _⟩ | ⟨_, _⟩ <;> omega

theorem place_lt (r : Ring α n) (offset : Nat) : (r.tail.val + offset) % n < n :=
  Nat.mod_lt _ r.tail.pos

def place (r : Ring α n) (offset : Nat) : Fin n :=
  ⟨(r.tail.val + offset) % n, r.place_lt offset⟩

theorem toList_eq (r : Ring α n) :
    r.toList = (List.range r.length).map fun offset => r.cells.get (r.place offset) :=
  rfl

theorem length_toList (r : Ring α n) : r.toList.length = r.length := by
  rw [toList_eq, List.length_map, List.length_range]

theorem isFull_toList (r : Ring α n) : r.isFull = decide (r.toList.length + 1 = n) := by
  rw [length_toList, Bool.eq_iff_iff, isFull_iff, decide_eq_true_iff]

private theorem toList_empty {r : Ring α n} (silent : r.length = 0) : r.toList = [] := by
  rw [toList_eq, silent]
  rfl

private theorem place_advanced (r : Ring α n) (offset : Nat) :
    place { r with tail := next r.tail } offset = r.place (offset + 1) := by
  refine Fin.ext ?_
  change ((r.tail.val + 1) % n + offset) % n = (r.tail.val + (offset + 1)) % n
  rw [Nat.mod_add_mod, Nat.add_assoc, Nat.add_comm 1]

private theorem toList_advanced {r : Ring α n} {rest : Nat} (values : r.length = rest + 1) :
    r.toList = r.cells.get r.tail :: toList { r with tail := next r.tail } := by
  have left : length { r with tail := next r.tail } = rest := by
    have inside := r.head.isLt
    have inside' := r.tail.isLt
    have advanced := length_cases { r with tail := next r.tail }
    dsimp only at advanced
    rcases r.length_cases with ⟨_, _⟩ | ⟨_, _⟩ <;>
      rcases next_cases r.tail with ⟨_, _⟩ | ⟨_, _⟩ <;> omega
  have oldest : r.place 0 = r.tail := Fin.ext (Nat.mod_eq_of_lt r.tail.isLt)
  rw [toList_eq, toList_eq, values, left, List.range_succ_eq_map, List.map_cons, List.map_map, oldest]
  refine congrArg (r.cells.get r.tail :: ·) (List.map_congr_left fun offset _ => ?_)
  rw [place_advanced]
  rfl

theorem pop_eq (r : Ring α n) : r.pop.1 = r.toList.head? ∧ r.pop.2.toList = r.toList.tail := by
  by_cases silent : r.isEmpty = true
  · have nothing := toList_empty ((isEmpty_iff r).mp silent)
    rw [pop, if_pos silent]
    exact ⟨by rw [nothing]; rfl, by rw [nothing]; rfl⟩
  · have values : r.length ≠ 0 := fun none => silent ((isEmpty_iff r).mpr none)
    obtain ⟨rest, count⟩ := Nat.exists_eq_succ_of_ne_zero values
    rw [pop, if_neg silent, toList_advanced count]
    exact ⟨rfl, rfl⟩

private theorem head_lt (r : Ring α n) : r.head.val < n :=
  r.head.isLt

def put (r : Ring α n) (value : α) : Ring α n :=
  { r with cells := r.cells.set r.head value r.head_lt, head := next r.head }

private theorem toList_put (r : Ring α n) (value : α) (free : r.length + 1 < n) :
    (r.put value).toList = r.toList ++ [value] := by
  have inside := r.head_lt
  have inside' := r.tail.isLt
  have longer : (r.put value).length = r.length + 1 := by
    have advanced := (r.put value).length_cases
    simp only [put] at advanced ⊢
    rcases r.length_cases with ⟨_, _⟩ | ⟨_, _⟩ <;>
      rcases next_cases r.head with ⟨_, _⟩ | ⟨_, _⟩ <;> omega
  have newest : (r.place r.length).val = r.head.val := by
    change (r.tail.val + r.length) % n = r.head.val
    rcases r.length_cases with ⟨_, _⟩ | ⟨_, _⟩ <;>
      rcases mod_wrapped (show r.tail.val + r.length < 2 * n by omega) with ⟨_, _⟩ | ⟨_, _⟩ <;> omega
  have older : ∀ offset < r.length, (r.place offset).val ≠ r.head.val := by
    intro offset before
    change (r.tail.val + offset) % n ≠ r.head.val
    rcases r.length_cases with ⟨_, _⟩ | ⟨_, _⟩ <;>
      rcases mod_wrapped (show r.tail.val + offset < 2 * n by omega) with ⟨_, _⟩ | ⟨_, _⟩ <;> omega
  rw [toList_eq, toList_eq, longer, List.range_succ, List.map_append]
  congr 1
  · refine List.map_congr_left fun offset before => ?_
    have apart := older offset (List.mem_range.mp before)
    exact Vector.getElem_set_ne inside (r.place offset).isLt apart.symm
  · refine congrArg (fun v => [v]) ?_
    change (r.cells.set r.head value r.head_lt)[(r.place r.length).val] = value
    simp only [newest, Vector.getElem_set_self]

theorem push_eq (r : Ring α n) (value : α) (room : 2 ≤ n) :
    (r.push value).1 = (if r.isFull then r.toList.head? else none) ∧
      (r.push value).2.toList = (if r.isFull then r.toList.tail else r.toList) ++ [value] := by
  by_cases full : r.isFull = true
  · have count := (isFull_iff r).mp full
    obtain ⟨oldest, shorter⟩ := r.pop_eq
    have free : r.pop.2.length + 1 < n := by
      rw [← length_toList, shorter, List.length_tail, length_toList]
      omega
    simp only [push, full, if_true]
    exact ⟨oldest, shorter ▸ toList_put r.pop.2 value free⟩
  · have free : r.length + 1 < n := by
      have bounded := r.length_lt
      have short : r.length + 1 ≠ n := fun count => full ((isFull_iff r).mpr count)
      omega
    simp only [push, full, Bool.false_eq_true, if_false]
    exact ⟨trivial, toList_put r value free⟩

theorem push_congr {r s : Ring α n} (room : 2 ≤ n) (same : r.toList = s.toList) (value : α) :
    (r.push value).1 = (s.push value).1 ∧ (r.push value).2.toList = (s.push value).2.toList := by
  obtain ⟨dropped, held⟩ := r.push_eq value room
  obtain ⟨dropped', held'⟩ := s.push_eq value room
  rw [dropped, dropped', held, held', isFull_toList, isFull_toList, same]
  exact ⟨rfl, rfl⟩

theorem toList_fresh [Inhabited α] (room : 2 ≤ n) : (empty room : Ring α n).toList = [] := by
  refine toList_empty ?_
  change (0 + n - 0) % n = 0
  rw [Nat.zero_add, Nat.sub_zero, Nat.mod_self]

theorem toList_reset (r : Ring α n) : r.reset.toList = [] := by
  refine toList_empty ?_
  change (0 + n - 0) % n = 0
  rw [Nat.zero_add, Nat.sub_zero, Nat.mod_self]

def All (P : α → Prop) (r : Ring α n) : Prop :=
  ∀ i, P (r.cells.get i)

section
variable {P : α → Prop} {r : Ring α n}

theorem All.fresh [Inhabited α] (start : P default) (room : 2 ≤ n) :
    (empty room : Ring α n).All P := by
  intro i
  change P (Vector.replicate n default)[i.val]
  rw [Vector.getElem_replicate]
  exact start

theorem All.put (all : r.All P) {value : α} (new : P value) : (r.put value).All P := by
  intro i
  change P (r.cells.set r.head value r.head_lt)[i.val]
  rw [Vector.getElem_set]
  split
  · exact new
  · exact all i

theorem All.pop (all : r.All P) : (∀ value, r.pop.1 = some value → P value) ∧ r.pop.2.All P := by
  rw [Ring.pop]
  split
  · exact ⟨fun _ nothing => absurd nothing (Option.some_ne_none _).symm, all⟩
  · exact ⟨fun _ oldest => Option.some.inj oldest ▸ all r.tail, all⟩

theorem All.push (all : r.All P) {value : α} (new : P value) :
    (∀ dropped, (r.push value).1 = some dropped → P dropped) ∧ (r.push value).2.All P := by
  by_cases full : r.isFull = true
  · simp only [Ring.push, full, if_true]
    exact ⟨all.pop.1, all.pop.2.put new⟩
  · simp only [Ring.push, full, Bool.false_eq_true, if_false]
    exact ⟨fun _ nothing => absurd nothing (Option.some_ne_none _).symm, all.put new⟩

theorem All.toList (all : r.All P) : ∀ value ∈ r.toList, P value := by
  intro value member
  rw [toList_eq] at member
  obtain ⟨offset, -, rfl⟩ := List.mem_map.mp member
  exact all _

end

end Ring

end DirectionFinding
