import Mathlib.Data.List.Nodup
import Noyra.Lib.Text

/-!
# Digests

Injective digests of bytes, given by a table where they are known, and texts of 64 hexadecimal digits.
-/

namespace Noyra.Lib.Digest

/-- The bytes as characters. -/
def raw (data : List UInt8) : String := String.ofList (data.map Char.ofUInt8)

theorem raw_injective : Function.Injective raw := by
  intro a b h
  refine List.map_injective_iff.mpr (fun x y hxy => ?_) (String.ofList_injective h)
  exact UInt8.toUInt32_inj.mp (congrArg Char.val hxy)

/-- The digest of the table, and elsewhere the bytes themselves after a dot. -/
def ofTable (table : List (List UInt8 × String)) (data : List UInt8) : String :=
  match table.find? (fun e => e.1 == data) with
  | some e => e.2
  | none => "." ++ raw data

variable {table : List (List UInt8 × String)}

lemma ofTable_cases (table : List (List UInt8 × String)) (data : List UInt8) :
    (∃ e ∈ table, e.1 = data ∧ ofTable table data = e.2) ∨ ofTable table data = "." ++ raw data := by
  unfold ofTable
  cases h : table.find? (fun e => e.1 == data) with
  | none => exact .inr rfl
  | some e => exact .inl ⟨e, List.mem_of_find?_eq_some h, by simpa using List.find?_some h, rfl⟩

/-- Digests of a table that differ and do not begin with a dot. -/
theorem ofTable_injective (hdistinct : (table.map Prod.snd).Nodup) (hhead : ∀ e ∈ table, e.2.toList.head? ≠ some '.') :
    Function.Injective (ofTable table) := by
  have hother : ∀ e ∈ table, ∀ data, e.2 ≠ "." ++ raw data := by
    intro e he data heq
    apply hhead e he
    rw [heq, String.toList_append]
    rfl
  intro a b h
  obtain ⟨e, he, rfl, ha⟩ | ha := ofTable_cases table a
  · obtain ⟨e', he', rfl, hb⟩ | hb := ofTable_cases table b
    · rw [List.inj_on_of_nodup_map hdistinct he he' (ha.symm.trans (h.trans hb))]
    · exact absurd (ha.symm.trans (h.trans hb)) (hother e he b)
  · obtain ⟨e', he', rfl, hb⟩ | hb := ofTable_cases table b
    · exact absurd (hb.symm.trans (h.symm.trans ha)) (hother e' he' a)
    · exact raw_injective ((String.append_right_inj _).mp (ha.symm.trans (h.trans hb)))

/-- The last 64 hexadecimal digits of a number, lowest first. -/
def hex (n : Nat) : String := String.ofList ((List.range 64).map (fun i => hexDigitChar (n / 16 ^ i % 16)))

theorem hex_length (n : Nat) : (hex n).toList.length = 64 := by
  unfold hex
  rw [String.toList_ofList, List.length_map, List.length_range]

theorem hex_all (n : Nat) : (hex n).toList.all (fun c => ('0' ≤ c && c ≤ '9') || ('a' ≤ c && c ≤ 'f')) = true := by
  have hdigit : ∀ d < 16, (('0' ≤ hexDigitChar d && hexDigitChar d ≤ '9') ||
      ('a' ≤ hexDigitChar d && hexDigitChar d ≤ 'f')) = true := by
    decide
  unfold hex
  rw [String.toList_ofList, List.all_map, List.all_eq_true]
  intro i _
  exact hdigit _ (Nat.mod_lt _ (by decide))

/-- A number below `2 ^ 256` that depends on every code. -/
def checksum (codes : List Nat) : Nat := codes.foldl (fun acc c => (acc * 257 + c + 1) % 2 ^ 256) 0

end Noyra.Lib.Digest
