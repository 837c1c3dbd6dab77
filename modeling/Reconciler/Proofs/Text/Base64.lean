import Mathlib.Data.List.Basic
import Reconciler.Text.Base64

/-!
# Base64 forms

What the strict reader takes for the base64 form of some bytes: the standard form of them, except that the
bits which the last group leaves over may be any, and that more padding may stand behind whole groups.  It
takes nothing else, and reads the bytes of which it is a form.
-/

namespace Reconciler.Text.Base64

/-! ## Characters of the alphabet -/

theorem decodeSextet?_encodeSextet {n : Nat} (small : n < 64) : decodeSextet? (encodeSextet n) = some n := by
  revert n
  decide +kernel

theorem lt_of_decodeSextet? {c : Char} {n : Nat} (read : decodeSextet? c = some n) : c.toNat < 0x80 := by
  by_contra large
  have not_plus : c ≠ '+' := fun same => large (same ▸ by decide)
  have not_slash : c ≠ '/' := fun same => large (same ▸ by decide)
  grind [decodeSextet?]

theorem decodeSextet?_eq_some_iff {c : Char} {n : Nat} :
    decodeSextet? c = some n ↔ n < 64 ∧ encodeSextet n = c := by
  constructor
  · intro read
    -- All characters that are read are among the first ones, of which there are few enough to try.
    have all : ∀ k < 0x80, ∀ n ∈ decodeSextet? (Char.ofNat k), n < 64 ∧ encodeSextet n = Char.ofNat k := by
      decide +kernel
    have found := all c.toNat (lt_of_decodeSextet? read) n
    rw [Char.ofNat_toNat] at found
    exact found read
  · rintro ⟨small, rfl⟩
    exact decodeSextet?_encodeSextet small

theorem encodeSextet_ne_padding {n : Nat} (small : n < 64) : encodeSextet n ≠ '=' := by
  intro same
  have read := decodeSextet?_encodeSextet small
  rw [same] at read
  contradiction

/-- Characters are read as the numbers in whose places of the alphabet they stand. -/
theorem mapM_decodeSextet?_eq_some_iff {cs : List Char} {digits : List Nat} :
    cs.mapM decodeSextet? = some digits ↔ (∀ n ∈ digits, n < 64) ∧ digits.map encodeSextet = cs := by
  induction cs generalizing digits with
  | nil => cases digits <;> simp
  | cons c cs ih =>
      have unfolded : (c :: cs).mapM decodeSextet? = some digits ↔
          ∃ n, decodeSextet? c = some n ∧ ∃ rest, cs.mapM decodeSextet? = some rest ∧ n :: rest = digits := by
        simp only [List.mapM_cons, Option.bind_eq_bind, Option.bind_eq_some_iff, Option.pure_def,
          Option.some.injEq]
      rw [unfolded]
      simp only [decodeSextet?_eq_some_iff, ih]
      constructor
      · rintro ⟨n, ⟨small, rfl⟩, rest, ⟨small_rest, rfl⟩, rfl⟩
        exact ⟨List.forall_mem_cons.mpr ⟨small, small_rest⟩, rfl⟩
      · rintro ⟨small, mapped⟩
        obtain ⟨n, rest, rfl, first, others⟩ := List.map_eq_cons_iff.mp mapped
        have ⟨small, small_rest⟩ := List.forall_mem_cons.mp small
        exact ⟨n, ⟨small, first⟩, rest, ⟨small_rest, others⟩, rfl⟩

/-! ## Bytes of a group -/

section Group

variable {x y left : Nat}

theorem first_byte (a : UInt8) (few : left < 16) :
    UInt8.ofNat (a.toNat / 4 * 4 + (a.toNat % 4 * 16 + left) / 16) = a := by
  rw [show a.toNat / 4 * 4 + (a.toNat % 4 * 16 + left) / 16 = a.toNat by omega, UInt8.ofNat_toNat]

theorem second_byte (b : UInt8) (few : left < 4) :
    UInt8.ofNat ((x * 16 + b.toNat / 16) % 16 * 16 + (b.toNat % 16 * 4 + left) / 4) = b := by
  have byte := b.toNat_lt
  rw [show (x * 16 + b.toNat / 16) % 16 * 16 + (b.toNat % 16 * 4 + left) / 4 = b.toNat by omega,
    UInt8.ofNat_toNat]

theorem third_byte (c : UInt8) : UInt8.ofNat ((x * 4 + c.toNat / 64) % 4 * 64 + c.toNat % 64) = c := by
  have byte := c.toNat_lt
  rw [show (x * 4 + c.toNat / 64) % 4 * 64 + c.toNat % 64 = c.toNat by omega, UInt8.ofNat_toNat]

end Group

/-! ## Whole groups -/

/-- The sextets of whole groups of three bytes. -/
def sextets : List UInt8 → List Nat
  | a :: b :: c :: rest =>
    a.toNat / 4 :: (a.toNat % 4 * 16 + b.toNat / 16) :: (b.toNat % 16 * 4 + c.toNat / 64) ::
      c.toNat % 64 :: sextets rest
  | _ => []

/-- Bytes in whole groups are built up group by group. -/
@[elab_as_elim]
theorem group_induction {motive : (bytes : List UInt8) → bytes.length % 3 = 0 → Prop}
    (nil : motive [] rfl)
    (group : ∀ a b c rest whole, motive rest whole →
      motive (a :: b :: c :: rest) ((Nat.add_mod_right rest.length 3).trans whole)) :
    ∀ bytes whole, motive bytes whole
  | [], _ => nil
  | [_], whole => by contradiction
  | [_, _], whole => by contradiction
  | a :: b :: c :: rest, whole =>
    have whole_rest : rest.length % 3 = 0 := (Nat.add_mod_right rest.length 3).symm.trans whole
    group a b c rest whole_rest (group_induction nil group rest whole_rest)

variable {bytes front tail : List UInt8} {digits rest : List Nat} {cs : List Char}

theorem sextets_small (whole : bytes.length % 3 = 0) : ∀ n ∈ sextets bytes, n < 64 := by
  induction bytes, whole using group_induction with
  | nil => simp [sextets]
  | group a b c rest _ ih =>
      have bytes := a.toNat_lt
      have bytes := b.toNat_lt
      have bytes := c.toNat_lt
      simp only [sextets, List.forall_mem_cons]
      exact ⟨by omega, by omega, by omega, by omega, ih⟩

theorem length_sextets (whole : bytes.length % 3 = 0) : 3 * (sextets bytes).length = 4 * bytes.length := by
  induction bytes, whole using group_induction with
  | nil => rfl
  | group a b c rest _ ih =>
      simp only [sextets, List.length_cons]
      omega

theorem encode_append (whole : front.length % 3 = 0) (tail : List UInt8) :
    encode (front ++ tail) = (sextets front).map encodeSextet ++ encode tail := by
  induction front, whole using group_induction with
  | nil => rfl
  | group a b c rest _ ih => simp only [List.cons_append, encode, sextets, List.map_cons, ih, List.nil_append]

theorem encode_whole (whole : front.length % 3 = 0) : encode front = (sextets front).map encodeSextet := by
  have appended := encode_append whole []
  rwa [List.append_nil, encode, List.append_nil] at appended

theorem bytes?_append (whole : front.length % 3 = 0) (rest : List Nat) :
    bytes? (sextets front ++ rest) = (bytes? rest).map (front ++ ·) := by
  induction front, whole using group_induction with
  | nil => simp [sextets]
  | group a b c others _ ih =>
      have leftover_b : b.toNat / 16 < 16 := by have := b.toNat_lt; omega
      have leftover_c : c.toNat / 64 < 4 := by have := c.toNat_lt; omega
      simp only [sextets, List.cons_append, bytes?, ih, Option.map_map, first_byte a leftover_b,
        second_byte b leftover_c, third_byte]
      rfl

/-- Sextets are those of whole groups, and fewer than four behind them. -/
theorem exists_sextets : ∀ digits : List Nat, (∀ n ∈ digits, n < 64) →
    ∃ front rest, front.length % 3 = 0 ∧ rest.length < 4 ∧ digits = sextets front ++ rest
  | d :: e :: f :: g :: digits, small => by
      simp only [List.forall_mem_cons] at small
      obtain ⟨small_d, small_e, small_f, small_g, small⟩ := small
      obtain ⟨front, rest, whole, few, rfl⟩ := exists_sextets digits small
      refine ⟨UInt8.ofNat (d * 4 + e / 16) :: UInt8.ofNat (e % 16 * 16 + f / 4) ::
        UInt8.ofNat (f % 4 * 64 + g) :: front, rest, (Nat.add_mod_right front.length 3).trans whole, few, ?_⟩
      have byte {n : Nat} (small : n < 256) : (UInt8.ofNat n).toNat = n := UInt8.toNat_ofNat_of_lt' small
      rw [sextets, byte (by omega), byte (by omega), byte (by omega)]
      have first : (d * 4 + e / 16) / 4 = d := by omega
      have second : (d * 4 + e / 16) % 4 * 16 + (e % 16 * 16 + f / 4) / 16 = e := by omega
      have third : (e % 16 * 16 + f / 4) % 16 * 4 + (f % 4 * 64 + g) / 64 = f := by omega
      have fourth : (f % 4 * 64 + g) % 64 = g := by omega
      rw [first, second, third, fourth]
      rfl
  | [], _ => ⟨[], [], rfl, by decide, rfl⟩
  | [d], _ => ⟨[], [d], rfl, by simp, rfl⟩
  | [d, e], _ => ⟨[], [d, e], rfl, by simp, rfl⟩
  | [d, e, f], _ => ⟨[], [d, e, f], rfl, by simp, rfl⟩

/-! ## Padding -/

section Padding

variable {data : Nat} {padding : List Char}

theorem paddingFits_whole (groups : data % 4 = 0) :
    paddingFits data padding = true ↔
      ∃ surplus, padding = List.replicate surplus '=' ∧ (surplus = 0 ∨ data ≠ 0) := by
  simp only [paddingFits, groups, Bool.or_eq_true, Bool.and_eq_true, List.isEmpty_iff, bne_iff_ne,
    List.all_eq_true, beq_iff_eq]
  constructor
  · rintro (rfl | ⟨some_data, signs⟩)
    · exact ⟨0, rfl, .inl rfl⟩
    · exact ⟨padding.length, List.eq_replicate_of_mem signs, .inr some_data⟩
  · rintro ⟨surplus, rfl, rfl | some_data⟩
    · exact .inl rfl
    · exact .inr ⟨some_data, fun _ => List.eq_of_mem_replicate⟩

theorem paddingFits_two (left : data % 4 = 2) : paddingFits data padding = true ↔ padding = ['=', '='] := by
  simp [paddingFits, left]

theorem paddingFits_three (left : data % 4 = 3) : paddingFits data padding = true ↔ padding = ['='] := by
  simp [paddingFits, left]

/-- Padding that fits consists of padding signs. -/
theorem signs_of_paddingFits (fits : paddingFits data padding = true) : ∀ c ∈ padding, c = '=' := by
  have remainder : data % 4 = 0 ∨ data % 4 = 1 ∨ data % 4 = 2 ∨ data % 4 = 3 := by omega
  rcases remainder with left | left | left | left
  · obtain ⟨surplus, rfl, -⟩ := (paddingFits_whole left).mp fits
    exact fun _ => List.eq_of_mem_replicate
  · simp [paddingFits, left] at fits
  · simp [(paddingFits_two left).mp fits]
  · simp [(paddingFits_three left).mp fits]

end Padding

/-! ## Reading a form -/

/-- What is read is numbers of the alphabet and the padding that fits behind them. -/
theorem decode?_eq_some_iff_digits :
    decode? cs = some bytes ↔ ∃ digits padding, cs = digits.map encodeSextet ++ padding ∧
      (∀ n ∈ digits, n < 64) ∧ paddingFits digits.length padding = true ∧ bytes? digits = some bytes := by
  rw [decode?, Option.ite_none_right_eq_some, Option.bind_eq_some_iff]
  constructor
  · rintro ⟨fits, digits, read, found⟩
    obtain ⟨small, mapped⟩ := mapM_decodeSextet?_eq_some_iff.mp read
    refine ⟨digits, cs.dropWhile (· != '='), ?_, small, ?_, found⟩
    · rw [mapped, List.takeWhile_append_dropWhile]
    · rwa [← mapped, List.length_map] at fits
  · rintro ⟨digits, padding, rfl, small, fits, found⟩
    have data : ∀ c ∈ digits.map encodeSextet, (c != '=') = true := by
      simpa using fun n held => encodeSextet_ne_padding (small n held)
    have signs := signs_of_paddingFits fits
    have no_data : padding.takeWhile (· != '=') = [] := by
      cases padding with
      | nil => rfl
      | cons c padding => simp [signs c List.mem_cons_self]
    have none_dropped : padding.dropWhile (· != '=') = padding := by
      cases padding with
      | nil => rfl
      | cons c padding => simp [signs c List.mem_cons_self]
    rw [List.takeWhile_append_of_pos data, no_data, List.append_nil, List.dropWhile_append_of_pos data,
      none_dropped, List.length_map]
    exact ⟨fits, digits, mapM_decodeSextet?_eq_some_iff.mpr ⟨small, rfl⟩, found⟩

/-- What the strict reader takes for the base64 form of bytes. -/
inductive Form : List UInt8 → List Char → Prop
  /-- Bytes in whole groups need no padding, but any amount of it may stand behind some. -/
  | whole (bytes : List UInt8) (surplus : Nat) (whole : bytes.length % 3 = 0)
      (behind : surplus = 0 ∨ bytes ≠ []) : Form bytes (encode bytes ++ List.replicate surplus '=')
  /-- The last byte leaves over four bits, which are not looked at. -/
  | one (front : List UInt8) (a : UInt8) (left : Nat) (whole : front.length % 3 = 0) (few : left < 16) :
      Form (front ++ [a])
        (encode front ++ [encodeSextet (a.toNat / 4), encodeSextet (a.toNat % 4 * 16 + left), '=', '='])
  /-- The last two bytes leave over two bits, which are not looked at. -/
  | two (front : List UInt8) (a b : UInt8) (left : Nat) (whole : front.length % 3 = 0) (few : left < 4) :
      Form (front ++ [a, b])
        (encode front ++ [encodeSextet (a.toNat / 4), encodeSextet (a.toNat % 4 * 16 + b.toNat / 16),
          encodeSextet (b.toNat % 16 * 4 + left), '='])

theorem decode?_of_form (form : Form bytes cs) : decode? cs = some bytes := by
  rw [decode?_eq_some_iff_digits]
  cases form with
  | whole _ surplus whole behind =>
      have groups := length_sextets whole
      refine ⟨sextets bytes, List.replicate surplus '=', by rw [encode_whole whole], sextets_small whole,
        ?_, ?_⟩
      · refine (paddingFits_whole (by omega)).mpr ⟨surplus, rfl, behind.imp_right fun some_bytes => ?_⟩
        have := List.length_pos_iff.mpr some_bytes
        omega
      · simpa [bytes?] using bytes?_append whole []
  | one front a left whole few =>
      have groups := length_sextets whole
      have byte := a.toNat_lt
      refine ⟨sextets front ++ [a.toNat / 4, a.toNat % 4 * 16 + left], ['=', '='], ?_, ?_, ?_, ?_⟩
      · simp [encode_whole whole]
      · rw [List.forall_mem_append]
        exact ⟨sextets_small whole, by simp; omega⟩
      · exact (paddingFits_two (by simp; omega)).mpr rfl
      · rw [bytes?_append whole, bytes?, first_byte a few]
        rfl
  | two front a b left whole few =>
      have groups := length_sextets whole
      have byte_a := a.toNat_lt
      have byte_b := b.toNat_lt
      refine ⟨sextets front ++ [a.toNat / 4, a.toNat % 4 * 16 + b.toNat / 16, b.toNat % 16 * 4 + left], ['='],
        ?_, ?_, ?_, ?_⟩
      · simp [encode_whole whole]
      · rw [List.forall_mem_append]
        exact ⟨sextets_small whole, by simp; omega⟩
      · exact (paddingFits_three (by simp; omega)).mpr rfl
      · rw [bytes?_append whole, bytes?, first_byte a (by omega), second_byte b few]
        rfl

theorem form_of_decode? (read : decode? cs = some bytes) : Form bytes cs := by
  obtain ⟨digits, padding, rfl, small, fits, found⟩ := decode?_eq_some_iff_digits.mp read
  obtain ⟨front, rest, whole, few, rfl⟩ := exists_sextets digits small
  have groups := length_sextets whole
  rw [bytes?_append whole, Option.map_eq_some_iff] at found
  obtain ⟨tail, found, rfl⟩ := found
  rw [List.map_append, ← encode_whole whole, List.append_assoc]
  rw [List.forall_mem_append] at small
  rw [List.length_append] at fits
  match rest, few with
  | [], _ =>
      cases found
      obtain ⟨surplus, rfl, behind⟩ := (paddingFits_whole (by simp; omega)).mp fits
      rw [List.append_nil]
      refine .whole front surplus whole (behind.imp_right ?_)
      rintro some_data rfl
      exact some_data rfl
  | [_], _ => cases found
  | [d, e], _ =>
      cases found
      obtain rfl := (paddingFits_two (by simp; omega)).mp fits
      simp only [List.forall_mem_cons] at small
      have form := Form.one front (UInt8.ofNat (d * 4 + e / 16)) (e % 16) whole (by omega)
      have byte : (UInt8.ofNat (d * 4 + e / 16)).toNat = d * 4 + e / 16 :=
        UInt8.toNat_ofNat_of_lt' (show _ < 256 by omega)
      rwa [byte, show (d * 4 + e / 16) / 4 = d by omega,
        show (d * 4 + e / 16) % 4 * 16 + e % 16 = e by omega] at form
  | [d, e, f], _ =>
      cases found
      obtain rfl := (paddingFits_three (by simp; omega)).mp fits
      simp only [List.forall_mem_cons] at small
      have form := Form.two front (UInt8.ofNat (d * 4 + e / 16)) (UInt8.ofNat (e % 16 * 16 + f / 4)) (f % 4)
        whole (by omega)
      have byte {n : Nat} (small : n < 256) : (UInt8.ofNat n).toNat = n := UInt8.toNat_ofNat_of_lt' small
      rwa [byte (by omega), byte (by omega), show (d * 4 + e / 16) / 4 = d by omega,
        show (d * 4 + e / 16) % 4 * 16 + (e % 16 * 16 + f / 4) / 16 = e by omega,
        show (e % 16 * 16 + f / 4) % 16 * 4 + f % 4 = f by omega] at form

theorem decode?_eq_some_iff : decode? cs = some bytes ↔ Form bytes cs :=
  ⟨form_of_decode?, decode?_of_form⟩

/-- The standard form is one. -/
theorem form_encode (bytes : List UInt8) : Form bytes (encode bytes) := by
  obtain ⟨front, tail, rfl, whole, few⟩ :
      ∃ front tail, bytes = front ++ tail ∧ front.length % 3 = 0 ∧ tail.length < 3 := by
    refine ⟨_, _, (List.take_append_drop (bytes.length / 3 * 3) bytes).symm, ?_, ?_⟩
    · rw [List.length_take]
      omega
    · rw [List.length_drop]
      omega
  rw [encode_append whole, ← encode_whole whole]
  match tail, few with
  | [], _ =>
      rw [List.append_nil]
      exact .whole front 0 whole (.inl rfl)
  | [a], _ => exact .one front a 0 whole (by decide)
  | [a, b], _ => exact .two front a b 0 whole (by decide)

theorem Form.ascii (form : Form bytes cs) : ∀ c ∈ cs, c.toNat < 0x80 := by
  obtain ⟨digits, padding, rfl, small, fits, -⟩ := decode?_eq_some_iff_digits.mp (decode?_of_form form)
  rw [List.forall_mem_append, List.forall_mem_map]
  refine ⟨fun n held => lt_of_decodeSextet? (decodeSextet?_encodeSextet (small n held)), fun c held => ?_⟩
  rw [signs_of_paddingFits fits c held]
  decide

end Reconciler.Text.Base64
