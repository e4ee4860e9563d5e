import Mathlib.Tactic.Lemma

/-!
# URL-safe base64 and UTF-8

Encoding of bytes with the alphabet that ends in `-` and `_`, the validating decoder, which takes `+` and `/` as well,
and UTF-8 of character lists.
-/

namespace Noyra.Lib

namespace Base64

/-- The character of six bits. -/
def symbol (n : Nat) : Char :=
  if n < 26 then Char.ofNat (65 + n)
  else if n < 52 then Char.ofNat (71 + n)
  else if n < 62 then Char.ofNat (n - 4)
  else if n = 62 then '-'
  else '_'

/-- The six bits of a character. -/
def value (c : Char) : Option Nat :=
  if 'A' ≤ c ∧ c ≤ 'Z' then some (c.toNat - 65)
  else if 'a' ≤ c ∧ c ≤ 'z' then some (c.toNat - 71)
  else if '0' ≤ c ∧ c ≤ '9' then some (c.toNat + 4)
  else if c = '-' ∨ c = '+' then some 62
  else if c = '_' ∨ c = '/' then some 63
  else none

/-- Bytes in groups of six bits, the last one filled up with zeros. -/
def sextets : List UInt8 → List Nat
  | [] => []
  | [a] => [a.toNat / 4, a.toNat % 4 * 16]
  | [a, b] => [a.toNat / 4, a.toNat % 4 * 16 + b.toNat / 16, b.toNat % 16 * 4]
  | a :: b :: c :: rest =>
    a.toNat / 4 :: (a.toNat % 4 * 16 + b.toNat / 16) :: (b.toNat % 16 * 4 + c.toNat / 64) :: c.toNat % 64 ::
      sextets rest

/-- The number of `=` that fill the last group. -/
def padding (bytes : List UInt8) : Nat := (3 - bytes.length % 3) % 3

/-- `base64.urlsafe_b64encode`. -/
def encode (bytes : List UInt8) : List Char := (sextets bytes).map symbol ++ List.replicate (padding bytes) '='

/-- The bytes of groups of six bits before that many `=`. -/
def octets : List Nat → Nat → Option (List UInt8)
  | [], _ => some []
  | [_], _ => none
  | [a, b], pads => if pads = 2 then some [UInt8.ofNat (a * 4 + b / 16)] else none
  | [a, b, c], pads => if 1 ≤ pads then some [UInt8.ofNat (a * 4 + b / 16), UInt8.ofNat (b % 16 * 16 + c / 4)] else none
  | a :: b :: c :: d :: rest, pads =>
    (octets rest pads).map (fun bytes =>
      UInt8.ofNat (a * 4 + b / 16) :: UInt8.ofNat (b % 16 * 16 + c / 4) :: UInt8.ofNat (c % 4 * 64 + d) :: bytes)

/-- `base64.b64decode(text, altchars=b"-_", validate=True)`. -/
def decode (text : List Char) : Option (List UInt8) :=
  let data := text.takeWhile (fun c => c ≠ '=')
  let pads := text.drop data.length
  if pads.all (fun c => c = '=') && pads.length ≤ 2 then (data.mapM value).bind
    (fun values => octets values pads.length)
  else none

lemma value_symbol {n : Nat} (h : n < 64) : value (symbol n) = some n := by
  have hall : ∀ k : Fin 64, value (symbol k) = some k.val := by decide
  exact hall ⟨n, h⟩

lemma symbol_ne_pad (n : Nat) : symbol n ≠ '=' := by
  by_cases h : n < 64
  · have hall : ∀ k : Fin 64, symbol k ≠ '=' := by decide
    exact hall ⟨n, h⟩
  · unfold symbol
    rw [if_neg (by omega), if_neg (by omega), if_neg (by omega), if_neg (by omega)]
    decide

lemma symbol_ne_colon (n : Nat) : symbol n ≠ ':' := by
  by_cases h : n < 64
  · have hall : ∀ k : Fin 64, symbol k ≠ ':' := by decide
    exact hall ⟨n, h⟩
  · unfold symbol
    rw [if_neg (by omega), if_neg (by omega), if_neg (by omega), if_neg (by omega)]
    decide

lemma sextets_lt (bytes : List UInt8) : ∀ n ∈ sextets bytes, n < 64 := by
  fun_induction sextets bytes with
  | case1 => simp
  | case2 a =>
    have := a.toNat_lt
    simp only [List.mem_cons, List.not_mem_nil, or_false, forall_eq_or_imp, forall_eq]
    omega
  | case3 a b =>
    have := a.toNat_lt
    have := b.toNat_lt
    simp only [List.mem_cons, List.not_mem_nil, or_false, forall_eq_or_imp, forall_eq]
    omega
  | case4 a b c rest ih =>
    have := a.toNat_lt
    have := b.toNat_lt
    have := c.toNat_lt
    simp only [List.mem_cons, forall_eq_or_imp]
    refine ⟨by omega, by omega, by omega, by omega, ih⟩

lemma ofNat_eq {n : Nat} {b : UInt8} (h : n = b.toNat) : UInt8.ofNat n = b := by
  rw [h, UInt8.ofNat_toNat]

lemma octets_sextets (bytes : List UInt8) : octets (sextets bytes) (padding bytes) = some bytes := by
  fun_induction sextets bytes with
  | case1 => rfl
  | case2 a =>
    have ha := a.toNat_lt
    have hpads : padding [a] = 2 := rfl
    rw [hpads]
    simp only [octets, if_true, Option.some.injEq, List.cons.injEq, and_true]
    exact ofNat_eq (by omega)
  | case3 a b =>
    have ha := a.toNat_lt
    have hb := b.toNat_lt
    have hpads : padding [a, b] = 1 := rfl
    rw [hpads]
    simp only [octets, Nat.le_refl, if_true, Option.some.injEq, List.cons.injEq, and_true]
    exact ⟨ofNat_eq (by omega), ofNat_eq (by omega)⟩
  | case4 a b c rest ih =>
    have ha := a.toNat_lt
    have hb := b.toNat_lt
    have hc := c.toNat_lt
    have hpads : padding (a :: b :: c :: rest) = padding rest := by
      simp only [padding, List.length_cons]
      omega
    rw [hpads]
    simp only [octets, ih, Option.map_some, Option.some.injEq, List.cons.injEq, and_true]
    exact ⟨ofNat_eq (by omega), ofNat_eq (by omega), ofNat_eq (by omega)⟩

lemma mapM_value {values : List Nat} (h : ∀ n ∈ values, n < 64) : (values.map symbol).mapM value = some values := by
  induction values with
  | nil => rfl
  | cons n values ih =>
    rw [List.map_cons, List.mapM_cons, value_symbol (h n List.mem_cons_self),
      ih (fun m hm => h m (List.mem_cons_of_mem n hm))]
    rfl

/-- Decoding gives back what was encoded. -/
theorem decode_encode (bytes : List UInt8) : decode (encode bytes) = some bytes := by
  have hdata : (encode bytes).takeWhile (fun c => c ≠ '=') = (sextets bytes).map symbol := by
    unfold encode
    rw [List.takeWhile_append_of_pos]
    · cases padding bytes with
      | zero => simp
      | succ n => simp [List.replicate_succ]
    · intro c hc
      obtain ⟨n, -, rfl⟩ := List.mem_map.mp hc
      simpa using symbol_ne_pad n
  have hpads : (encode bytes).drop ((sextets bytes).map symbol).length = List.replicate (padding bytes) '=' := by
    unfold encode
    rw [List.drop_left]
  have htwo : padding bytes ≤ 2 := by
    unfold padding
    omega
  unfold decode
  simp only [hdata, hpads]
  rw [if_pos (by simp [htwo]), mapM_value (sextets_lt bytes), Option.bind_some, List.length_replicate, octets_sextets]

lemma encode_inj {a b : List UInt8} (h : encode a = encode b) : a = b :=
  Option.some.inj ((decode_encode a).symm.trans ((congrArg decode h).trans (decode_encode b)))

/-- What is left of an encoding without the `=` at its end. -/
lemma encode_filter (bytes : List UInt8) : (encode bytes).filter (fun c => c ≠ '=') = (sextets bytes).map symbol := by
  have hdata : ((sextets bytes).map symbol).filter (fun c => c ≠ '=') = (sextets bytes).map symbol := by
    rw [List.filter_eq_self]
    intro c hc
    obtain ⟨n, -, rfl⟩ := List.mem_map.mp hc
    simpa using symbol_ne_pad n
  unfold encode
  rw [List.filter_append, hdata, List.filter_replicate, if_neg (by simp), List.append_nil]

lemma length_sextets (bytes : List UInt8) : (4 - (sextets bytes).length % 4) % 4 = padding bytes := by
  fun_induction sextets bytes with
  | case1 => rfl
  | case2 => rfl
  | case3 => rfl
  | case4 a b c rest ih =>
    unfold padding at ih ⊢
    simp only [List.length_cons]
    omega

/-- The `=` can be put back. -/
lemma encode_filter_pad (bytes : List UInt8) :
    (encode bytes).filter (fun c => c ≠ '=') ++
      List.replicate ((4 - ((encode bytes).filter (fun c => c ≠ '=')).length % 4) % 4) '=' = encode bytes := by
  rw [encode_filter, List.length_map, length_sextets]
  rfl

lemma colon_not_mem_encode (bytes : List UInt8) : ':' ∉ encode bytes := by
  unfold encode
  rw [List.mem_append, not_or]
  constructor
  · intro h
    obtain ⟨n, -, hn⟩ := List.mem_map.mp h
    exact symbol_ne_colon n hn
  · intro h
    exact absurd (List.mem_replicate.mp h).2 (by decide)

lemma length_le_encode (bytes : List UInt8) : bytes.length ≤ (encode bytes).length := by
  have hsextets : bytes.length ≤ (sextets bytes).length := by
    fun_induction sextets bytes with
    | case1 => simp
    | case2 a => simp
    | case3 a b => simp
    | case4 a b c rest ih =>
      simp only [List.length_cons]
      omega
  unfold encode
  rw [List.length_append, List.length_map]
  omega

end Base64

/-- `str.encode("utf-8")`. -/
def utf8Encode (text : List Char) : List UInt8 := text.flatMap String.utf8EncodeChar

/-- `bytes.decode("utf-8")`. -/
def utf8Decode (bytes : List UInt8) : Option (List Char) := bytes.toByteArray.utf8Decode?.map Array.toList

/-- Decoding gives back the encoded text. -/
theorem utf8Decode_utf8Encode (text : List Char) : utf8Decode (utf8Encode text) = some text := by
  have h : (utf8Encode text).toByteArray = text.utf8Encode := rfl
  unfold utf8Decode
  rw [h, List.utf8Decode?_utf8Encode]
  rfl

lemma utf8Encode_inj {a b : List Char} (h : utf8Encode a = utf8Encode b) : a = b :=
  Option.some.inj ((utf8Decode_utf8Encode a).symm.trans ((congrArg utf8Decode h).trans (utf8Decode_utf8Encode b)))

lemma length_le_utf8Encode (text : List Char) : text.length ≤ (utf8Encode text).length := by
  induction text with
  | nil => simp
  | cons c text ih =>
    have hpos : 0 < (String.utf8EncodeChar c).length := by
      rw [String.length_utf8EncodeChar]
      exact c.utf8Size_pos
    have hcons : utf8Encode (c :: text) = String.utf8EncodeChar c ++ utf8Encode text := rfl
    rw [hcons, List.length_append, List.length_cons]
    omega

/-- The encoding of a character does not begin the encoding of another one. -/
lemma utf8EncodeChar_append {c d : Char} {u v : List UInt8}
    (h : String.utf8EncodeChar c ++ u = String.utf8EncodeChar d ++ v) : c = d ∧ u = v := by
  have hbytes : ∀ (e : Char) (w : List UInt8), (String.utf8EncodeChar e ++ w).toByteArray = [e].utf8Encode ++
      w.toByteArray := by
    intro e w
    rw [List.toByteArray_append, List.utf8Encode_singleton]
  have hc := List.utf8DecodeChar?_utf8Encode_singleton_append (b := u.toByteArray) (c := c)
  have hd := List.utf8DecodeChar?_utf8Encode_singleton_append (b := v.toByteArray) (c := d)
  rw [← hbytes, h, hbytes, hd] at hc
  have heq : c = d := (Option.some.inj hc).symm
  subst heq
  exact ⟨rfl, List.append_cancel_left h⟩

/-- An encoding that begins with another one is of a text that begins with the other. -/
theorem utf8Encode_begins {a b : List Char} (h : utf8Encode a <+: utf8Encode b) : a <+: b := by
  induction a generalizing b with
  | nil => exact List.nil_prefix
  | cons c a ih =>
    obtain ⟨rest, hrest⟩ := h
    have hcons : ∀ (e : Char) (w : List Char), utf8Encode (e :: w) = String.utf8EncodeChar e ++ utf8Encode w :=
      fun _ _ => rfl
    cases b with
    | nil =>
      have hlen := congrArg List.length hrest
      have hpos := length_le_utf8Encode (c :: a)
      rw [List.length_append, List.length_cons] at *
      have hnil : (utf8Encode []).length = 0 := rfl
      omega
    | cons d b =>
      rw [hcons, hcons, List.append_assoc] at hrest
      obtain ⟨rfl, htail⟩ := utf8EncodeChar_append hrest
      exact (List.prefix_cons_inj c).mpr (ih ⟨rest, htail⟩)

end Noyra.Lib
