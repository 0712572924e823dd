import EndpointCountry.Unicode.Lowercase.Words
import EndpointCountry.Unicode.Uppercase

/-!
# Lower-casing

The full lower-case mapping of Unicode 17. Where it is one character for one, it undoes the
upper-case mapping, with two exceptions. A small letter may be a variant of another that has the
same capital, and then only the other is the small form of that capital. And a letter may have a
small form without being its capital: the small form of the Kelvin sign is the letter k. Besides, a
capital I with a dot becomes two characters, and a capital sigma has another form at the end of a
word.
-/

namespace EndpointCountry.Text

/-- Whether a code point stands above a letter of a run. -/
def CaseRun.coversCapital (run : CaseRun) (n : Nat) : Bool :=
  run.capital ≤ n && n ≤ run.capital + (run.last - run.first) && (n - run.capital) % run.step == 0

/-- The letter of a run below a code point. -/
def CaseRun.smallOf (run : CaseRun) (n : Nat) : Nat :=
  run.first + (n - run.capital)

/-- The first letters of the runs of variants, such as the long s and the final sigma. -/
def variants : List Nat := [
  0xB5, 0x131, 0x17F, 0x1C5, 0x1C8, 0x1CB, 0x1F2, 0x345, 0x3C2, 0x3D0, 0x3D1, 0x3D5, 0x3D6, 0x3F0,
  0x3F1, 0x3F5, 0x1C80, 0x1C81, 0x1C82, 0x1C83, 0x1C85, 0x1C86, 0x1C87, 0x1C88, 0x1E9B, 0x1FBE]

/-- Small letters below letters that are not their capitals: title-case digraphs, Greek letters with
a sign beside them, and letters that are signs or stand apart from the small letter. -/
def uncapitalRuns : List CaseRun := [
  ⟨0x1C6, 0x1C6, 1, 0x1C5⟩, ⟨0x1C9, 0x1C9, 1, 0x1C8⟩, ⟨0x1CC, 0x1CC, 1, 0x1CB⟩,
  ⟨0x1F3, 0x1F3, 1, 0x1F2⟩, ⟨0x3B8, 0x3B8, 1, 0x3F4⟩, ⟨0xDF, 0xDF, 1, 0x1E9E⟩,
  ⟨0x1F80, 0x1F87, 1, 0x1F88⟩, ⟨0x1F90, 0x1F97, 1, 0x1F98⟩, ⟨0x1FA0, 0x1FA7, 1, 0x1FA8⟩,
  ⟨0x1FB3, 0x1FB3, 1, 0x1FBC⟩, ⟨0x1FC3, 0x1FC3, 1, 0x1FCC⟩, ⟨0x1FF3, 0x1FF3, 1, 0x1FFC⟩,
  ⟨0x3C9, 0x3C9, 1, 0x2126⟩, ⟨0x6B, 0x6B, 1, 0x212A⟩, ⟨0xE5, 0xE5, 1, 0x212B⟩]

/-- Every letter whose small form is one character other than itself, above that character. -/
def smallRuns : List CaseRun :=
  caseRuns.filter (fun run => !variants.contains run.first) ++ uncapitalRuns

/-- The lower-case form of one character by itself. -/
def lowerChars (c : Char) : List Char :=
  match smallRuns.find? (·.coversCapital c.toNat) with
  | some run => [Char.ofNat (run.smallOf c.toNat)]
  | none => if c = '\u0130' then ['i', '\u0307'] else [c]

/-- Whether a character with a case comes first, the ones in between left aside. -/
def startsCased (cs : List Char) : Bool :=
  (cs.dropWhile isIgnorable).head?.any isCased

/-- The small sigma at a place of a text; the characters before it are given from the last to the
first. It has its final form where a word ends that has begun before. -/
def smallSigma (before after : List Char) : Char :=
  if startsCased before && !startsCased after then '\u03C2' else '\u03C3'

/-- The lower-case form of the rest of a text, after the characters that come `before`, from the
last to the first. -/
def lowerFrom (before : List Char) : List Char → List Char
  | [] => []
  | c :: rest =>
    (if c = '\u03A3' then [smallSigma before rest] else lowerChars c) ++
      lowerFrom (c :: before) rest

/-- The lower-case form of a text. -/
def lower (s : String) : String :=
  String.ofList (lowerFrom [] s.toList)

end EndpointCountry.Text
