import XdpFirewall.Policy.Compile
import XdpFirewall.Lib.Lines
import XdpFirewall.Lib.SplitOnce

/-!
# ErrorText — what of an error is shown

An error is shown by its first line. Who a URL names before its host is taken out of it, and what is
too long is cut off.
-/

namespace XdpFirewall
namespace ControlPlane

open Lib Policy

/-! ## Credentials -/

/-- The schemes whose URLs are looked for, without the text that ends each of them. -/
def schemeNames : List (List Char) :=
  ["postgres", "postgresql", "mysql", "sqlite", "http", "https"].map String.toList

def schemeText (name : List Char) : List Char :=
  name ++ "://".toList

/-- The characters at which the authority of a URL ends. -/
def endsAuthority (c : Char) : Bool :=
  c == '/' || c == '?' || c == '#' || c == ' ' || c == '\t' || c == '\n' || c == '\r'

/-- `find` of a text in a text, with what stands before and after it. -/
def findText (pattern : List Char) : List Char → Option (List Char × List Char)
  | [] => if pattern.isEmpty then some ([], []) else none
  | c :: rest =>
      if pattern.isPrefixOf (c :: rest) then
        some ([], (c :: rest).drop pattern.length)
      else
        (findText pattern rest).map fun (before, after) => (c :: before, after)

def redactedMark : List Char :=
  "<redacted>@".toList

/-- An authority with what stands before its last at sign redacted. -/
def redactAuthority (authority : List Char) : List Char :=
  match rsplitOnce '@' authority with
  | some (_, host) => redactedMark ++ host
  | none => authority

theorem length_of_findText {pattern s before after : List Char}
    (h : findText pattern s = some (before, after)) :
    s.length = before.length + pattern.length + after.length := by
  induction s generalizing before with
  | nil =>
      rw [findText] at h
      split at h
      · next hempty =>
          cases h
          simp [List.isEmpty_iff.mp hempty]
      · cases h
  | cons c rest ih =>
      rw [findText] at h
      split at h
      · next hpattern =>
          cases h
          have hle := (List.isPrefixOf_iff_prefix.mp hpattern).length_le
          rw [List.length_drop, List.length_nil]
          omega
      · obtain ⟨⟨front, back⟩, hfound, hsame⟩ := Option.map_eq_some_iff.mp h
        cases hsame
        have hrest := ih hfound
        rw [List.length_cons, List.length_cons]
        omega

def redactSchemeCredentials (name message : List Char) : List Char :=
  match _hfound : findText (schemeText name) message with
  | none => message
  | some (before, after) =>
      let authority := after.takeWhile fun c => !endsAuthority c
      let afterAuthority := after.dropWhile fun c => !endsAuthority c
      before ++ schemeText name ++ redactAuthority authority ++
        redactSchemeCredentials name afterAuthority
termination_by message.length
decreasing_by
  have hlength := length_of_findText _hfound
  have hrest : (after.dropWhile fun c => !endsAuthority c).length ≤ after.length :=
    (List.dropWhile_suffix _).length_le
  simp only [schemeText, List.length_append] at hlength
  have hmark : "://".toList.length = 3 := rfl
  omega

def redactCredentials (message : List Char) : List Char :=
  schemeNames.foldl (fun redacted name => redactSchemeCredentials name redacted) message

/-! ## Length -/

/-- `MAX_PUBLIC_ERROR_BYTES` -/
def maxPublicErrorBytes : Nat := 512

def utf8Length : List Char → Nat
  | [] => 0
  | c :: rest => c.utf8Size + utf8Length rest

/-- As many characters as fit into the bytes. -/
def takeBytes : Nat → List Char → List Char
  | _, [] => []
  | bytes, c :: rest =>
      if c.utf8Size ≤ bytes then c :: takeBytes (bytes - c.utf8Size) rest else []

def truncate (value : List Char) (maxBytes : Nat) : List Char :=
  if utf8Length value ≤ maxBytes then value else takeBytes maxBytes value ++ "...".toList

/-! ## The message -/

/-- The first of the lines, without blanks around it. A carriage return before the end of a line is
such a blank. -/
def firstLine (message : List Char) : List Char :=
  trim ((linesOf '\n' message).head?.getD "operation failed".toList)

def publicErrorMessage (message : String) : String :=
  String.ofList (truncate (redactCredentials (firstLine message.toList)) maxPublicErrorBytes)

end ControlPlane
end XdpFirewall
