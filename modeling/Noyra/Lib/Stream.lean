import Mathlib.Data.List.Basic
import Mathlib.Tactic.Lemma

/-!
# Reading a file in pieces

`reads n data` is what successive `read(n)` return before the empty one, and `be32` is the big-endian length prefix of a
framed stream.
-/

namespace Noyra.Lib.Stream

/-- `while chunk := stream.read(n)`. -/
def reads {α : Type} (n : Nat) (data : List α) : List (List α) :=
  if _h : n = 0 ∨ data = [] then []
  else data.take n :: reads n (data.drop n)
termination_by data.length
decreasing_by
  have hpos : data.length ≠ 0 := fun hnil => _h (.inr (List.length_eq_zero_iff.mp hnil))
  rw [List.length_drop]
  omega

section
variable {α : Type} {n : Nat} {data : List α}

@[simp] lemma reads_nil : reads n ([] : List α) = [] := by
  unfold reads
  rw [dif_pos (.inr rfl)]

lemma reads_of_ne_nil (hn : 0 < n) (h : data ≠ []) : reads n data = data.take n :: reads n (data.drop n) := by
  rw [reads, dif_neg]
  rintro (hzero | hnil)
  · omega
  · exact h hnil

/-- A file no longer than one read. -/
lemma reads_single (hlen : data.length ≤ n) (h : data ≠ []) : reads n data = [data] := by
  have hpos : 0 < data.length := List.length_pos_iff.mpr h
  rw [reads_of_ne_nil (by omega) h, List.take_of_length_le hlen, List.drop_eq_nil_of_le hlen, reads_nil]

/-- The pieces are the file. -/
theorem flatten_reads (hn : 0 < n) (data : List α) : (reads n data).flatten = data := by
  fun_induction reads n data with
  | case1 data h =>
    rcases h with hzero | hnil
    · omega
    · rw [hnil, List.flatten_nil]
  | case2 data _ ih => rw [List.flatten_cons, ih, List.take_append_drop]

/-- Every piece is as long as asked for, the last one possibly shorter, none is empty. -/
theorem length_of_mem_reads (hn : 0 < n) {data c : List α} (hc : c ∈ reads n data) : 0 < c.length ∧ c.length ≤ n := by
  fun_induction reads n data with
  | case1 data _ => cases hc
  | case2 data h ih =>
    have hpos : data.length ≠ 0 := fun hnil => h (.inr (List.length_eq_zero_iff.mp hnil))
    rcases List.mem_cons.mp hc with rfl | hc
    · rw [List.length_take]
      omega
    · exact ih hc

/-- Skipping whole pieces leaves the other pieces. -/
theorem reads_drop (hn : 0 < n) (k : Nat) (data : List α) : reads n (data.drop (k * n)) = (reads n data).drop k := by
  induction k generalizing data with
  | zero => rw [Nat.zero_mul, List.drop_zero, List.drop_zero]
  | succ k ih =>
    by_cases h : data = []
    · rw [h, List.drop_nil, reads_nil, List.drop_nil]
    · rw [reads_of_ne_nil hn h, List.drop_succ_cons, ← ih, List.drop_drop, Nat.succ_mul, Nat.add_comm]

/-- The first pieces are the beginning of the file. -/
theorem flatten_take_reads (hn : 0 < n) (k : Nat) (data : List α) :
    ((reads n data).take k).flatten = data.take (k * n) := by
  induction k generalizing data with
  | zero => rw [Nat.zero_mul, List.take_zero, List.take_zero, List.flatten_nil]
  | succ k ih =>
    by_cases h : data = []
    · rw [h, reads_nil, List.take_nil, List.take_nil, List.flatten_nil]
    · rw [reads_of_ne_nil hn h, List.take_succ_cons, List.flatten_cons, ih, Nat.succ_mul, Nat.add_comm (k * n),
        List.take_add]

/-- How many pieces a file has. -/
theorem length_reads (hn : 0 < n) (data : List α) : (reads n data).length = (data.length + n - 1) / n := by
  fun_induction reads n data with
  | case1 data h =>
    rcases h with hzero | hnil
    · omega
    · rw [hnil]
      exact (Nat.div_eq_of_lt (by rw [List.length_nil]; omega)).symm
  | case2 data h ih =>
    have hpos : data.length ≠ 0 := fun hnil => h (.inr (List.length_eq_zero_iff.mp hnil))
    rw [List.length_cons, ih, List.length_drop]
    by_cases hle : data.length ≤ n
    · have hone : data.length + n - 1 = (data.length - 1) + n := by omega
      rw [Nat.sub_eq_zero_of_le hle, Nat.div_eq_of_lt (by omega : 0 + n - 1 < n), hone, Nat.add_div_right _ hn,
        Nat.div_eq_of_lt (by omega)]
    · have hstep : data.length + n - 1 = (data.length - n + n - 1) + n := by omega
      rw [hstep, Nat.add_div_right _ hn]

end

/-- `struct.pack(">I", n)`. -/
def be32 (n : Nat) : List UInt8 :=
  [UInt8.ofNat (n / 16777216), UInt8.ofNat (n / 65536), UInt8.ofNat (n / 256), UInt8.ofNat n]

/-- `struct.unpack(">I", data)[0]`; other lengths are an error. -/
def unbe32 : List UInt8 → Option Nat
  | [a, b, c, d] => some (a.toNat * 16777216 + b.toNat * 65536 + c.toNat * 256 + d.toNat)
  | _ => none

@[simp] lemma length_be32 (n : Nat) : (be32 n).length = 4 := rfl

lemma unbe32_be32 {n : Nat} (h : n < 4294967296) : unbe32 (be32 n) = some n := by
  simp only [be32, unbe32, UInt8.toNat_ofNat', Option.some.injEq]
  omega

lemma be32_of_unbe32 {data : List UInt8} {n : Nat} (h : unbe32 data = some n) : data = be32 n ∧ n < 4294967296 := by
  unfold unbe32 at h
  split at h
  · next a b c d =>
    simp only [Option.some.injEq] at h
    have ha := a.toNat_lt
    have hb := b.toNat_lt
    have hc := c.toNat_lt
    have hd := d.toNat_lt
    refine ⟨?_, by omega⟩
    simp only [be32, List.cons.injEq, and_true, ← UInt8.toNat_inj, UInt8.toNat_ofNat']
    refine ⟨by omega, by omega, by omega, by omega⟩
  · cases h

end Noyra.Lib.Stream
