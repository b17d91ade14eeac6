import Reminders.Text.Split

/-!
# Media types

A media type is a type, a slash, a subtype and perhaps a suffix after a plus sign, all of them
tokens, followed by parameters. The last plus sign that does not begin the subtype sets off the
suffix. Parameters have a name and a value, which is a token or a quoted text; blanks may stand
before names and after quoted values.
-/

namespace Reminders.Http

def isTokenChar (c : Char) : Bool := c.isAlphanum || "!#$%&\x27*+-.^_\x60|~".toList.contains c

def isQuotable (c : Char) : Bool := 0x20 ≤ c.toNat && c.toNat != 0x7F

/-- What follows a quoted value whose opening quote has been read. The closing quote is the first
one that is not the first character after the opening quote. -/
def afterQuoted : List Char → Option (List Char)
  | [] => none
  | c :: cs =>
      if isQuotable c then
        match cs.dropWhile fun c => c != '"' && isQuotable c with
        | '"' :: rest => some rest
        | _ => none
      else none

theorem length_afterQuoted {cs rest : List Char} (h : afterQuoted cs = some rest) :
    rest.length < cs.length := by
  cases cs with
  | nil => simp [afterQuoted] at h
  | cons c cs =>
      have le := (List.dropWhile_sublist (l := cs) fun c => c != '"' && isQuotable c).length_le
      simp only [afterQuoted] at h
      split at h
      · split at h
        · next hd =>
            rw [hd] at le
            simp only [Option.some.injEq] at h
            subst h
            simp only [List.length_cons] at *
            omega
        · simp at h
      · simp at h

/-- Whether a text is a list of parameters. -/
def areParameters (cs : List Char) : Bool :=
  match cs with
  | [] => true
  | ' ' :: rest => areParameters rest
  | c :: rest =>
      isTokenChar c &&
        match _he : rest.dropWhile isTokenChar with
        | '=' :: '"' :: quoted =>
            match _hq : afterQuoted quoted with
            | none => false
            | some after =>
                match _ha : after.dropWhile (· = ' ') with
                | [] => true
                | ';' :: more => areParameters more
                | _ => false
        | '=' :: value =>
            match _hv : value.dropWhile isTokenChar with
            | [] => true
            | ';' :: more => value.head? != some ';' && areParameters more
            | _ => false
        | _ => false
termination_by cs.length
decreasing_by
  · simp
  · have h1 := (List.dropWhile_sublist (l := rest) isTokenChar).length_le
    have h2 := length_afterQuoted _hq
    have h3 := (List.dropWhile_sublist (l := after) (· = ' ')).length_le
    rw [_he] at h1
    rw [_ha] at h3
    simp only [List.length_cons] at *
    omega
  · have h1 := (List.dropWhile_sublist (l := rest) isTokenChar).length_le
    have h2 := (List.dropWhile_sublist (l := value) isTokenChar).length_le
    rw [_he] at h1
    rw [_hv] at h2
    simp only [List.length_cons] at *
    omega

structure MediaType where
  type : List Char
  subtype : List Char
  suffix : Option (List Char)
deriving DecidableEq, Repr

namespace MediaType

/-- Splits a text at its last plus sign, unless that is its first character. -/
def splitSuffix (cs : List Char) : List Char × Option (List Char) :=
  let suffix := (cs.reverse.takeWhile (· ≠ '+')).reverse
  let front := cs.take (cs.length - suffix.length - 1)
  if suffix.length < cs.length && !front.isEmpty then (front, some suffix) else (cs, none)

/-- Reads a media type. Its parameters are checked and dropped. -/
def parse? (cs : List Char) : Option MediaType :=
  let type := cs.takeWhile isTokenChar
  match cs.dropWhile isTokenChar with
  | '/' :: rest =>
      let full := rest.takeWhile isTokenChar
      let (subtype, suffix) := splitSuffix full
      let result : MediaType := ⟨type, subtype, suffix⟩
      if type.isEmpty then none
      else
        match rest.dropWhile isTokenChar with
        | [] => some result
        | ';' :: parameters =>
            if full.isEmpty || !areParameters parameters then none else some result
        | _ => none
  | _ => none

/-- Whether a text is a word, letters of either case counting as the same. -/
def isWord (word : String) (cs : List Char) : Bool := cs.map Char.toLower = word.toList

def isJson (m : MediaType) : Bool :=
  isWord "application" m.type && (isWord "json" m.subtype || m.suffix.any (isWord "json"))

end MediaType

end Reminders.Http
