import ModelForge.Text.Hex

/-! Reading bytes as UTF-8, and where the first byte sequence that is none begins and ends. -/

namespace ModelForge.Text.Utf8

inductive Flaw where
  | start
  | continuation
  | ending

def Flaw.message : Flaw → String
  | .start => "invalid start byte"
  | .continuation => "invalid continuation byte"
  | .ending => "unexpected end of data"

structure Fault where
  start : Nat
  length : Nat
  first : UInt8
  flaw : Flaw

def Fault.message (f : Fault) : String :=
  let place :=
    if f.length = 1 then
      "byte 0x" ++ String.ofList (hexDigits 2 f.first.toNat) ++ " in position " ++ toString f.start
    else
      "bytes in position " ++ toString f.start ++ "-" ++ toString (f.start + f.length - 1)
  "'utf-8' codec can't decode " ++ place ++ ": " ++ f.flaw.message

def isContinuation (b : UInt8) : Bool := 0x80 ≤ b && b < 0xC0

/-- The second byte of a longer sequence is further limited: no overlong form, no surrogate, nothing beyond the last plane. -/
def secondFits (lead second : UInt8) : Bool :=
  isContinuation second &&
    !(lead == 0xE0 && second < 0xA0) && !(lead == 0xED && 0xA0 ≤ second) &&
    !(lead == 0xF0 && second < 0x90) && !(lead == 0xF4 && 0x90 ≤ second)

def trailing? (lead : UInt8) : Option Nat :=
  if lead < 0x80 then some 0
  else if lead < 0xC2 then none
  else if lead < 0xE0 then some 1
  else if lead < 0xF0 then some 2
  else if lead < 0xF5 then some 3
  else none

/-- What is wrong with the bytes that should follow `lead`; `done` of them were right. -/
def flawAfter (lead : UInt8) : Nat → Nat → List UInt8 → Option (Nat × Flaw)
  | 0, _, _ => none
  | _ + 1, done, [] => some (done + 1, .ending)
  | left + 1, done, b :: rest =>
    if if done = 0 then secondFits lead b else isContinuation b then flawAfter lead left (done + 1) rest
    else some (done + 1, .continuation)

def faultFrom (position : Nat) (bytes : List UInt8) : Option Fault :=
  match bytes with
  | [] => none
  | lead :: rest =>
    match trailing? lead with
    | none => some ⟨position, 1, lead, .start⟩
    | some n =>
      match flawAfter lead n 0 rest with
      | some (length, flaw) => some ⟨position, length, lead, flaw⟩
      | none => faultFrom (position + n + 1) (rest.drop n)
termination_by bytes.length
decreasing_by simp only [List.length_cons, List.length_drop]; omega

def decode (bytes : ByteArray) : Except Fault String :=
  match String.fromUTF8? bytes with
  | some s => .ok s
  | none => .error ((faultFrom 0 bytes.toList).getD ⟨0, 1, 0, .start⟩)

theorem decode_toUTF8 (s : String) : decode s.toUTF8 = .ok s := by
  simp [decode, String.fromUTF8?, s.isValidUTF8, String.fromUTF8]

theorem decode_eq_ok_iff {bytes : ByteArray} {s : String} : decode bytes = .ok s ↔ bytes = s.toUTF8 := by
  constructor
  · intro h
    unfold decode at h
    split at h
    · next found hf =>
      cases h
      unfold String.fromUTF8? at hf
      split at hf
      · cases hf
        rfl
      · cases hf
    · cases h
  · rintro rfl
    exact decode_toUTF8 s

end ModelForge.Text.Utf8
