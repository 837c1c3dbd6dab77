import Reconciler.Proofs.Text.Base64
import Reconciler.Proofs.Text.Utf8
import Reconciler.Secret

/-!
# Texts out of secrets

A secret is stored as the bytes of its text or as the base64 form of these bytes, and its text is read out of
both.  A text that is no such form stands for itself.
-/

namespace Reconciler.Secret

open Text

variable {bytes : List UInt8} {s t : String}

theorem encode_eq_stored (s : String) : Utf8.encode s = s.toByteArray.data.toList := by
  rw [Utf8.encode, String.toUTF8_eq_toByteArray, ByteArray.toList, Utf8.toList_loop]
  rfl

/-- The bytes of a text are read as that text, and no others are. -/
theorem textOfBytes?_eq_some_iff : textOfBytes? bytes = some s ↔ bytes = Utf8.encode s := by
  rw [encode_eq_stored, textOfBytes?, String.fromUTF8?]
  constructor
  · intro read
    split at read
    · cases read
      rfl
    · cases read
  · rintro rfl
    exact dif_pos s.isValidUTF8

/-- A text that holds a base64 form of a text is read as that text. -/
theorem decode_of_form (form : Base64.Form (Utf8.encode t) s.toList) : decode (.text s) = .ok t := by
  have ascii : (s.toList.all fun c => c.toNat < 0x80) = true := by simpa using form.ascii
  rw [decode, decodeText, if_pos ascii, Base64.decode?_eq_some_iff.mpr form, Option.bind_some,
    textOfBytes?_eq_some_iff.mpr rfl, Option.getD_some]

example : decode (.text "aHVudGVyMg==") = .ok "hunter2" := by rfl

/-- A text that holds no base64 form of a text stands for itself. -/
theorem decode_of_no_form (ascii : ∀ c ∈ s.toList, c.toNat < 0x80)
    (no_form : ∀ t, ¬Base64.Form (Utf8.encode t) s.toList) : decode (.text s) = .ok s := by
  have unread : (Base64.decode? s.toList).bind textOfBytes? = none := by
    rw [Option.eq_none_iff_forall_ne_some]
    intro t found
    obtain ⟨bytes, read, encoded⟩ := Option.bind_eq_some_iff.mp found
    rw [textOfBytes?_eq_some_iff] at encoded
    exact no_form t (encoded ▸ Base64.decode?_eq_some_iff.mp read)
  rw [decode, decodeText, if_pos (by simpa using ascii), unread, Option.getD_none]

/-- The text of a secret comes back out of its base64 form and out of its bytes, and what is no base64 form of
a text comes back as it is. -/
theorem decode_stored :
    (∀ s, decode (.text (String.ofList (Base64.encode (Utf8.encode s)))) = .ok s) ∧
      (∀ s, decode (.scalar (.binary (Utf8.encode s))) = .ok s) ∧
        ∀ s : String, (∀ c ∈ s.toList, c.toNat < 0x80) →
          (∀ t, ¬Base64.Form (Utf8.encode t) s.toList) → decode (.text s) = .ok s := by
  refine ⟨fun s => decode_of_form ?_, fun s => ?_, fun s => decode_of_no_form⟩
  · rw [String.toList_ofList]
    exact Base64.form_encode _
  · rw [decode, decodeBytes, textOfBytes?_eq_some_iff.mpr rfl]

theorem decode_stored_phrase :
    (∀ c ∈ "not base64!".toList, c.toNat < 0x80) ∧
      (∀ t, ¬Base64.Form (Utf8.encode t) "not base64!".toList) ∧
        decode (.text "not base64!") = .ok "not base64!" := by
  have ascii : ∀ c ∈ "not base64!".toList, c.toNat < 0x80 := by simp
  have unread : Base64.decode? "not base64!".toList = none := by rfl
  have no_form (t : String) : ¬Base64.Form (Utf8.encode t) "not base64!".toList := fun form => by
    cases unread.symm.trans (Base64.decode?_eq_some_iff.mpr form)
  exact ⟨ascii, no_form, decode_stored.2.2 _ ascii no_form⟩

end Reconciler.Secret
