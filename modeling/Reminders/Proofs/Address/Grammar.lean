import Reminders.Address.Printer
import Reminders.Address.Reader
import Reminders.Proofs.Text.Digits

/-!
# The grammar of hosts

How a host may be written in front of a port: four octets as they are printed, or eight groups
between brackets with a scope if there is one. Of the eight groups a run of zeros may be left out,
and the last two may be written as four octets.

The readers of addresses take exactly what this grammar allows. What they leave behind is told with
it, since a reader of digits stops only where no digit follows (`readWord_eq_some_iff`,
`Ipv4.read_eq_some_iff`, `Ipv6.readGroup_eq_some_iff`), and a reader of groups only where none
follows (`Ipv6.run_readGroups`, `Ipv6.readGroups_append`).
-/

namespace Reminders

open Text (Spells SpellsHex Stops decimal? eq_toDigits_iff_of_values hexadecimal? length_of_values
  ne_nil_iff_of_values ofDigits spanDigits spanDigits_append spanDigits_eq_iff
  spells_iff_exists_values spells_toDigits spellsHex_iff_exists_values stops_cons_iff)

variable {cs rest : List Char} {c mark : Char}

theorem readMark_eq_some_iff : readMark mark cs = some rest ↔ cs = mark :: rest := by
  cases cs with
  | nil => simp [readMark]
  | cons c cs =>
      rw [readMark]
      by_cases same : c = mark
      · simp [same]
      · simp [same]

/-- A number that fits is read with all of its digits. -/
theorem readWord_eq_some_iff {width : Nat} {w : BitVec width} :
    readWord width cs = some (w, rest) ↔
      ∃ front, front ≠ [] ∧ cs = front ++ rest ∧ Spells front w.toNat ∧ Stops decimal? rest := by
  constructor
  · intro h
    rcases taken : spanDigits decimal? cs with ⟨ds, rest'⟩
    obtain ⟨front, split, values, stops⟩ := spanDigits_eq_iff.mp taken
    simp only [readWord, taken, Text.ofDigitsUpTo?_eq (by decide : 0 < 10),
      Nat.one_shiftLeft] at h
    split at h
    · cases h
    · next given =>
        split at h
        · next fits =>
            rw [Option.map_some, Option.some.injEq, Prod.mk.injEq] at h
            obtain ⟨rfl, rfl⟩ := h
            have small : ofDigits 10 ds < 2 ^ width := by
              have := Nat.two_pow_pos width
              omega
            refine ⟨front, (ne_nil_iff_of_values values).mpr ?_, split, ?_, stops⟩
            · rwa [List.isEmpty_iff] at given
            · rw [BitVec.toNat_ofNat, Nat.mod_eq_of_lt small]
              exact spells_iff_exists_values.mpr ⟨ds, values, rfl⟩
        · cases h
  · rintro ⟨front, given, rfl, spells, stops⟩
    obtain ⟨ds, values, value⟩ := spells_iff_exists_values.mp spells
    have nonempty : ds.isEmpty = false :=
      List.isEmpty_eq_false_iff.mpr ((ne_nil_iff_of_values values).mp given)
    have fits : w.toNat ≤ 1 <<< width - 1 := by
      rw [Nat.one_shiftLeft]
      exact Nat.le_pred_of_lt w.isLt
    unfold readWord
    rw [spanDigits_append values stops]
    simp only [nonempty, Text.ofDigitsUpTo?_eq (by decide : 0 < 10), value, if_pos fits]
    simp

namespace Ipv4

theorem readOctet_eq_some_iff {o : BitVec 8} :
    readOctet cs = some (o, rest) ↔
      cs = Nat.toDigits 10 o.toNat ++ rest ∧ Stops decimal? rest := by
  constructor
  · intro h
    rcases taken : spanDigits decimal? cs with ⟨ds, rest'⟩
    obtain ⟨front, split, values, stops⟩ := spanDigits_eq_iff.mp taken
    simp only [readOctet, taken] at h
    split at h
    · cases h
    · next taken =>
        obtain ⟨rfl, rfl⟩ := Prod.mk.inj (Option.some.inj h)
        obtain ⟨⟨⟨given, -⟩, canonical⟩, small⟩ :
            ((ds ≠ [] ∧ ds.length ≤ 3) ∧ (1 < ds.length → ds.head? ≠ some 0)) ∧
              ofDigits 10 ds ≤ 255 := by
          simpa using taken
        have written := (eq_toDigits_iff_of_values values).mpr ⟨given, canonical⟩
        rw [BitVec.toNat_ofNat, Nat.mod_eq_of_lt (by omega), ← written]
        exact ⟨split, stops⟩
  · rintro ⟨rfl, stops⟩
    obtain ⟨ds, values, value⟩ := spells_iff_exists_values.mp (spells_toDigits o.toNat)
    have written : Nat.toDigits 10 o.toNat = Nat.toDigits 10 (ofDigits 10 ds) := by rw [value]
    obtain ⟨given, canonical⟩ := (eq_toDigits_iff_of_values values).mp written
    have small : o.toNat < 256 := o.isLt
    have short : ds.length ≤ 3 := by
      rw [← length_of_values values, Nat.length_toDigits_le_iff (by decide) (by decide)]
      omega
    have taken : ((ds ≠ [] ∧ ds.length ≤ 3) ∧ (1 < ds.length → ds.head? ≠ some 0)) ∧
        o.toNat ≤ 255 := ⟨⟨⟨given, short⟩, canonical⟩, Nat.le_of_lt_succ small⟩
    unfold readOctet
    rw [spanDigits_append values stops]
    simpa [value] using taken

/-- Four octets are read as they are printed, and in no other form. -/
theorem read_eq_some_iff {ip : Ipv4} :
    read cs = some (ip, rest) ↔ cs = ip.chars ++ rest ∧ Stops decimal? rest := by
  have point (s : List Char) : Stops decimal? ('.' :: s) := stops_cons_iff.mpr rfl
  have printed : ip.chars ++ rest = Nat.toDigits 10 ip.a.toNat ++ '.' ::
      (Nat.toDigits 10 ip.b.toNat ++ '.' :: (Nat.toDigits 10 ip.c.toNat ++ '.' ::
        (Nat.toDigits 10 ip.d.toNat ++ rest))) := by
    simp [chars, Text.join]
  rw [printed]
  simp only [read, bind, pure, Option.bind_eq_some_iff, Prod.exists, readOctet_eq_some_iff,
    readMark_eq_some_iff]
  constructor
  · rintro ⟨a, _, ⟨rfl, -⟩, b, _, ⟨_, rfl, rfl, -⟩, c, _, ⟨_, rfl, rfl, -⟩, d, rest',
      ⟨_, rfl, rfl, stops⟩, read⟩
    cases read
    exact ⟨rfl, stops⟩
  · rintro ⟨rfl, stops⟩
    exact ⟨_, _, ⟨rfl, point _⟩, _, _, ⟨_, rfl, rfl, point _⟩, _, _, ⟨_, rfl, rfl, point _⟩, _, _,
      ⟨_, rfl, rfl, stops⟩, rfl⟩

theorem exists_chars_eq (ip : Ipv4) :
    ∃ cs, ip.chars = Nat.toDigits 10 ip.a.toNat ++ '.' :: cs := by
  exact ⟨_, rfl⟩

theorem exists_chars_eq_cons (ip : Ipv4) : ∃ c cs, ip.chars = c :: cs ∧ c.isDigit = true := by
  have nonempty : Nat.toDigits 10 ip.a.toNat ≠ [] := Nat.toDigits_ne_nil
  obtain ⟨c, cs, begins⟩ := List.exists_cons_of_ne_nil nonempty
  obtain ⟨more, point⟩ := ip.exists_chars_eq
  have digit : c.isDigit = true := by
    apply Nat.isDigit_of_mem_toDigits (n := ip.a.toNat) (by decide) (Nat.le_refl 10)
    simp [begins]
  exact ⟨c, _, by rw [point, begins, List.cons_append], digit⟩

/-- Octets are printed in digits with points between them. -/
theorem mem_chars {c : Char} (ip : Ipv4) (h : c ∈ ip.chars) : c = '.' ∨ c.isDigit = true := by
  have digit {n : Nat} (mem : c ∈ Nat.toDigits 10 n) : c.isDigit = true :=
    Nat.isDigit_of_mem_toDigits (by decide) (Nat.le_refl 10) mem
  simp only [chars, List.map_cons, List.map_nil, Text.join, List.mem_append, List.mem_cons] at h
  rcases h with h | h | h | h | h | h | h
  all_goals first | exact .inl h | exact .inr (digit h)

/-- There are three points in four octets. -/
theorem count_chars (ip : Ipv4) : ip.chars.count '.' = 3 := by
  have none (n : Nat) : (Nat.toDigits 10 n).count '.' = 0 := by
    rw [List.count_eq_zero]
    intro point
    exact absurd (Nat.isDigit_of_mem_toDigits (by decide) (Nat.le_refl 10) point) (by decide)
  simp [chars, Text.join, List.count_append, none]

end Ipv4

namespace Ipv6

/-- A group is written in up to four hexadecimal digits, of either case. -/
structure IsGroup (cs : List Char) (g : BitVec 16) : Prop where
  nonempty : cs ≠ []
  short : cs.length ≤ 4
  spells : SpellsHex cs g.toNat

/-- What stands before a group: a colon, unless it is the first. -/
def lead (first : Bool) : List Char := if first then [] else [':']

/-- Groups with colons between them, perhaps none, and whether they end in four octets. -/
inductive Run : Bool → List Char → List (BitVec 16) → Bool → Prop where
  | none {first : Bool} : Run first [] [] false
  | octets {first : Bool} (ip : Ipv4) : Run first (lead first ++ ip.chars) ip.groups true
  | group {first dotted : Bool} {cs rest : List Char} {g : BitVec 16} {gs : List (BitVec 16)}
      (group : IsGroup cs g) (more : Run false rest gs dotted) :
      Run first (lead first ++ (cs ++ rest)) (g :: gs) dotted

/-- How an address of eight groups may be written. -/
inductive Written : List Char → Ipv6 → Prop where
  | full {cs : List Char} {ip : Ipv6} {dotted : Bool} (run : Run true cs ip.groups dotted) :
      Written cs ip
  | shortened {front back : List Char} {ip : Ipv6} {gs gs' : List (BitVec 16)} {zeros : Nat}
      {dotted : Bool} (before : Run true front gs false) (after : Run true back gs' dotted)
      (positive : 0 < zeros) (groups : ip.groups = gs ++ List.replicate zeros 0 ++ gs') :
      Written (front ++ ':' :: ':' :: back) ip

theorem readGroup_eq_some_iff {g : BitVec 16} :
    readGroup cs = some (g, rest) ↔
      ∃ front, cs = front ++ rest ∧ IsGroup front g ∧ Stops hexadecimal? rest := by
  constructor
  · intro h
    rcases taken : spanDigits hexadecimal? cs with ⟨ds, rest'⟩
    obtain ⟨front, split, values, stops⟩ := spanDigits_eq_iff.mp taken
    simp only [readGroup, taken] at h
    have length := length_of_values values
    split at h
    · cases h
    · next taken =>
        obtain ⟨rfl, rfl⟩ := Prod.mk.inj (Option.some.inj h)
        obtain ⟨given, short⟩ : ds ≠ [] ∧ ds.length ≤ 4 := by simpa using taken
        have spells : SpellsHex front (ofDigits 16 ds) :=
          spellsHex_iff_exists_values.mpr ⟨ds, values, rfl⟩
        refine ⟨front, split, ⟨(ne_nil_iff_of_values values).mpr given, by omega, ?_⟩, stops⟩
        rwa [BitVec.toNat_ofNat, Nat.mod_eq_of_lt]
        exact spells.lt_of_length_le (by omega : front.length ≤ 4)
  · rintro ⟨front, rfl, ⟨nonempty, short, spells⟩, stops⟩
    obtain ⟨ds, values, value⟩ := spellsHex_iff_exists_values.mp spells
    have length := length_of_values values
    have taken : ds ≠ [] ∧ ds.length ≤ 4 :=
      ⟨(ne_nil_iff_of_values values).mp nonempty, by omega⟩
    unfold readGroup
    rw [spanDigits_append values stops]
    simpa [value] using taken

/-- What stands before a group is taken off. -/
theorem front_eq_some_iff {first : Bool} {s : List Char} :
    (if first then some cs else readMark ':' cs) = some s ↔ cs = lead first ++ s := by
  cases first with
  | true => exact Option.some_inj
  | false => exact readMark_eq_some_iff

/-- The groups that are read have been written, and there are no more than the limit allows. -/
theorem run_readGroups (limit : Nat) (first : Bool) (cs : List Char) :
    ∃ front, cs = front ++ (readGroups limit first cs).rest ∧
      Run first front (readGroups limit first cs).groups (readGroups limit first cs).dotted ∧
      (readGroups limit first cs).groups.length ≤ limit := by
  induction limit generalizing first cs with
  | zero => exact ⟨[], rfl, .none, Nat.le_refl 0⟩
  | succ limit ih =>
      rw [readGroups]
      generalize front : (if first then some cs else readMark ':' cs) = s?
      split
      · next v4 rest octets =>
          split at octets
          · next room =>
              obtain ⟨s, rfl, read⟩ := Option.bind_eq_some_iff.mp octets
              obtain ⟨rfl, -⟩ := Ipv4.read_eq_some_iff.mp read
              refine ⟨lead first ++ v4.chars, ?_, .octets v4, Nat.succ_lt_succ room⟩
              rw [List.append_assoc]
              exact front_eq_some_iff.mp front
          · cases octets
      · split
        · exact ⟨[], rfl, .none, Nat.zero_le _⟩
        · next group rest digits =>
            obtain ⟨s, rfl, read⟩ := Option.bind_eq_some_iff.mp digits
            obtain ⟨written, rfl, isGroup, -⟩ := readGroup_eq_some_iff.mp read
            obtain ⟨more, split, run, fits⟩ := ih false rest
            refine ⟨lead first ++ (written ++ more), ?_, .group isGroup run, Nat.succ_le_succ fits⟩
            rw [List.append_assoc, List.append_assoc, ← split]
            exact front_eq_some_iff.mp front

/-- A text goes on with a character that stands between groups or behind them. -/
inductive Breaks : List Char → Prop where
  | bracket (rest : List Char) : Breaks (']' :: rest)
  | percent (rest : List Char) : Breaks ('%' :: rest)
  | colon (rest : List Char) : Breaks (':' :: rest)

/-- A text goes on with what cannot belong to groups: a closing bracket, a percent sign or two
colons. -/
inductive Halts : List Char → Prop where
  | bracket (rest : List Char) : Halts (']' :: rest)
  | percent (rest : List Char) : Halts ('%' :: rest)
  | colons (rest : List Char) : Halts (':' :: ':' :: rest)

theorem Halts.breaks (halts : Halts rest) : Breaks rest := by
  cases halts with
  | bracket rest => exact .bracket rest
  | percent rest => exact .percent rest
  | colons rest => exact .colon (':' :: rest)

/-- No group follows, even if a colon is taken for the one before a group. -/
theorem Halts.breaks_of_lead {first : Bool} {s : List Char} (halts : Halts rest)
    (split : rest = lead first ++ s) : Breaks s := by
  cases first with
  | true =>
      cases split
      exact halts.breaks
  | false =>
      cases halts with
      | bracket s => cases split
      | percent s => cases split
      | colons s =>
          cases split
          exact .colon s

namespace Breaks

variable {s : List Char}

theorem stops (breaks : Breaks s) : Stops decimal? s ∧ Stops hexadecimal? s := by
  cases breaks <;> exact ⟨stops_cons_iff.mpr rfl, stops_cons_iff.mpr rfl⟩

theorem readGroup_eq_none (breaks : Breaks s) : readGroup s = none := by
  cases breaks <;> rfl

theorem exists_cons (breaks : Breaks s) : ∃ c s', s = c :: s' ∧ c ≠ '.' ∧ c.isDigit = false := by
  cases breaks <;> exact ⟨_, _, rfl, by decide, rfl⟩

/-- What no point follows is not read as octets. -/
theorem read_eq_none (breaks : Breaks s) (pointless : '.' ∉ cs) : Ipv4.read (cs ++ s) = none := by
  obtain ⟨c, s', rfl, other, digit⟩ := breaks.exists_cons
  rw [Option.eq_none_iff_forall_ne_some]
  rintro ⟨ip, rest⟩ read
  obtain ⟨split, -⟩ := Ipv4.read_eq_some_iff.mp read
  obtain ⟨more, point⟩ := ip.exists_chars_eq
  rw [point, List.append_assoc, List.cons_append, List.append_eq_append_iff] at split
  obtain ⟨middle, octet, tail⟩ | ⟨middle, front, tail⟩ := split
  · cases middle with
    | nil => exact other (List.cons.inj tail).1
    | cons c' middle =>
        obtain ⟨rfl, -⟩ := List.cons.inj tail
        have digit' : c.isDigit = true := by
          apply Nat.isDigit_of_mem_toDigits (n := ip.a.toNat) (by decide) (Nat.le_refl 10)
          simp [octet]
        cases digit.symm.trans digit'
  · cases middle with
    | nil => exact other (List.cons.inj tail).1.symm
    | cons c' middle =>
        obtain ⟨rfl, -⟩ := List.cons.inj tail
        exact pointless (by simp [front])

end Breaks

theorem IsGroup.pointless {g : BitVec 16} (group : IsGroup cs g) : '.' ∉ cs := by
  obtain ⟨ds, values, -⟩ := spellsHex_iff_exists_values.mp group.spells
  exact Text.not_mem_of_values values rfl

/-- More groups begin with a colon. -/
theorem Run.breaks {front : List Char} {gs : List (BitVec 16)} {dotted : Bool}
    (run : Run false front gs dotted) (breaks : Breaks rest) : Breaks (front ++ rest) := by
  cases run with
  | none => exact breaks
  | octets | group => exact .colon _

theorem readGroups_octets {limit : Nat} {first : Bool} {s : List Char} {ip : Ipv4}
    (room : 0 < limit) (octets : Ipv4.read s = some (ip, rest)) :
    readGroups (limit + 1) first (lead first ++ s) = ⟨ip.groups, true, rest⟩ := by
  rw [readGroups, front_eq_some_iff.mpr rfl, if_pos room, Option.bind_some, octets]

theorem readGroups_group {limit : Nat} {first : Bool} {s : List Char} {g : BitVec 16}
    (pointed : Ipv4.read s = none) (group : readGroup s = some (g, rest)) :
    readGroups (limit + 1) first (lead first ++ s) =
      { readGroups limit false rest with groups := g :: (readGroups limit false rest).groups } := by
  rw [readGroups, front_eq_some_iff.mpr rfl]
  simp [pointed, group]

/-- All the groups that are written before such a text are read. -/
theorem readGroups_append {limit : Nat} {first dotted : Bool} {front : List Char}
    {gs : List (BitVec 16)} (run : Run first front gs dotted) (fits : gs.length ≤ limit)
    (halts : Halts rest) : readGroups limit first (front ++ rest) = ⟨gs, dotted, rest⟩ := by
  induction run generalizing limit with
  | @none first =>
      rw [List.nil_append]
      cases limit with
      | zero => rfl
      | succ limit =>
          rw [readGroups]
          cases front : if first then some rest else readMark ':' rest with
          | none => simp
          | some s =>
              have breaks := halts.breaks_of_lead (front_eq_some_iff.mp front)
              have octets : Ipv4.read ([] ++ s) = none := breaks.read_eq_none List.not_mem_nil
              rw [List.nil_append] at octets
              simp [octets, breaks.readGroup_eq_none]
  | @octets first ip =>
      obtain ⟨limit, rfl, room⟩ : ∃ l, limit = l + 1 ∧ 0 < l := by
        have : 2 ≤ limit := fits
        exact ⟨limit - 1, by omega, by omega⟩
      rw [List.append_assoc]
      exact readGroups_octets room (Ipv4.read_eq_some_iff.mpr ⟨rfl, halts.breaks.stops.1⟩)
  | @group first dotted cs more g gs group run ih =>
      obtain ⟨limit, rfl⟩ : ∃ l, limit = l + 1 := ⟨limit - 1, by simp at fits; omega⟩
      have breaks := run.breaks halts.breaks
      have digits := readGroup_eq_some_iff.mpr ⟨cs, rfl, group, breaks.stops.2⟩
      rw [List.append_assoc, List.append_assoc,
        readGroups_group (breaks.read_eq_none group.pointless) digits,
        ih (Nat.le_of_succ_le_succ fits)]

theorem ofGroups?_eq_some_iff {gs : List (BitVec 16)} {ip : Ipv6} :
    ofGroups? gs = some ip ↔ ip.groups = gs := by
  obtain ⟨groups, length⟩ := ip
  unfold ofGroups?
  split
  · rw [Option.some.injEq, mk.injEq, eq_comm]
  · next other =>
      refine iff_of_false nofun ?_
      rintro rfl
      exact other length

theorem exists_written_of_read {ip : Ipv6} (h : read cs = some (ip, rest)) :
    ∃ front, cs = front ++ rest ∧ Written front ip := by
  obtain ⟨front, split, run, fits⟩ := run_readGroups 8 true cs
  unfold read at h
  generalize readGroups 8 true cs = head at h split run fits
  obtain ⟨gs, dotted, rest'⟩ := head
  simp only [bind, pure] at h split run fits
  split at h
  · next full =>
      obtain ⟨_, groups, same⟩ := Option.bind_eq_some_iff.mp h
      cases same
      rw [ofGroups?_eq_some_iff] at groups
      exact ⟨front, split, .full (groups ▸ run)⟩
  · split at h
    · cases h
    · next short plain =>
        simp only [Option.bind_eq_some_iff, readMark_eq_some_iff, ofGroups?_eq_some_iff] at h
        obtain ⟨s, ⟨_, rfl, rfl⟩, _, groups, same⟩ := h
        cases same
        obtain rfl : dotted = false := Bool.eq_false_iff.mpr plain
        obtain ⟨back, split', run', fits'⟩ := run_readGroups (7 - gs.length) true s
        refine ⟨front ++ ':' :: ':' :: back, ?_, .shortened run run' (by omega) groups⟩
        rw [List.append_assoc, List.cons_append, List.cons_append, ← split']
        exact split

theorem read_of_written {ip : Ipv6} (h : Written cs ip) (halts : Halts rest) :
    read (cs ++ rest) = some (ip, rest) := by
  have length := ip.length_groups
  cases h with
  | full run =>
      unfold read
      rw [readGroups_append run (by omega) halts]
      simp only [bind, pure, length, if_true, ofGroups?_eq_some_iff.mpr rfl, Option.bind_some]
  | @shortened front back _ gs gs' zeros dotted before after positive groups =>
      have sum : gs.length + zeros + gs'.length = 8 := by
        rw [← length, groups, List.length_append, List.length_append, List.length_replicate]
      have split : front ++ ':' :: ':' :: back ++ rest =
          front ++ ':' :: ':' :: (back ++ rest) := by
        rw [List.append_assoc, List.cons_append, List.cons_append]
      have head := readGroups_append before (by omega : gs.length ≤ 8) (.colons (back ++ rest))
      have tail := readGroups_append after (by omega : gs'.length ≤ 7 - gs.length) halts
      have marks : (readMark ':' (':' :: ':' :: (back ++ rest))).bind (readMark ':') =
          some (back ++ rest) := rfl
      have short : ¬gs.length = 8 := by omega
      have missing : 8 - gs.length - gs'.length = zeros := by omega
      unfold read
      rw [split, head]
      simp only [bind, pure, if_neg short, Bool.false_eq_true, if_false, marks, Option.bind_some,
        tail, missing, ofGroups?_eq_some_iff.mpr groups]

end Ipv6

namespace Host

/-- How the scope of an address may be written: in any decimal digits after a percent sign, or not
at all if it is zero. -/
inductive Scope : List Char → BitVec 32 → Prop where
  | absent : Scope [] 0
  | given {ds : List Char} {scope : BitVec 32} (nonempty : ds ≠ [])
      (spells : Spells ds scope.toNat) : Scope ('%' :: ds) scope

/-- How a host may be written before a port. -/
inductive Written : List Char → Host → Prop where
  | v4 (ip : Ipv4) : Written ip.chars (.v4 ip)
  | v6 {cs cs' : List Char} {ip : Ipv6} {scope : BitVec 32} (address : Ipv6.Written cs ip)
      (zone : Scope cs' scope) : Written ('[' :: (cs ++ (cs' ++ [']']))) (.v6 ip scope)

variable {host : Host} {scope : BitVec 32}

theorem exists_scope_of_readScope (cs : List Char) :
    ∃ zone, cs = zone ++ (readScope cs).2 ∧ Scope zone (readScope cs).1 := by
  rw [readScope]
  cases zone : (readMark '%' cs).bind (readWord 32) with
  | none => exact ⟨[], rfl, .absent⟩
  | some read =>
      obtain ⟨scope, rest⟩ := read
      obtain ⟨_, percent, word⟩ := Option.bind_eq_some_iff.mp zone
      obtain ⟨ds, nonempty, rfl, spells, -⟩ := readWord_eq_some_iff.mp word
      exact ⟨'%' :: ds, readMark_eq_some_iff.mp percent, .given nonempty spells⟩

theorem Scope.readScope_append (h : Scope cs scope) (rest : List Char) :
    readScope (cs ++ ']' :: rest) = (scope, ']' :: rest) := by
  cases h with
  | absent => rfl
  | @given ds _ nonempty spells =>
      have stops : Stops decimal? (']' :: rest) := stops_cons_iff.mpr rfl
      have word := readWord_eq_some_iff.mpr ⟨ds, nonempty, rfl, spells, stops⟩
      have percent : readMark '%' ('%' :: ds ++ ']' :: rest) = some (ds ++ ']' :: rest) :=
        readMark_eq_some_iff.mpr rfl
      rw [readScope, percent, Option.bind_some, word, Option.getD_some]

theorem Scope.halts (h : Scope cs scope) (rest : List Char) : Ipv6.Halts (cs ++ ']' :: rest) := by
  cases h with
  | absent => exact .bracket rest
  | given => exact .percent _

/-- A host that is read has been written. -/
theorem exists_written_of_read (h : read cs = some (host, rest)) :
    ∃ front, cs = front ++ rest ∧ Written front host := by
  unfold read at h
  split at h
  · obtain ⟨⟨ip, rest'⟩, octets, same⟩ := Option.map_eq_some_iff.mp h
    cases same
    exact ⟨ip.chars, (Ipv4.read_eq_some_iff.mp octets).1, .v4 ip⟩
  · next s bracket =>
      simp only [bind, pure, Option.bind_eq_some_iff, Prod.exists, readMark_eq_some_iff] at h
      obtain ⟨ip, s', groups, s'', close, same⟩ := h
      cases same
      obtain ⟨front, rfl, address⟩ := Ipv6.exists_written_of_read groups
      obtain ⟨zone, split, scope⟩ := exists_scope_of_readScope s'
      refine ⟨'[' :: (front ++ (zone ++ [']'])), ?_, .v6 address scope⟩
      rw [close] at split
      rw [readMark_eq_some_iff.mp bracket, split]
      simp

/-- A bracket tells where a host ends, whatever follows. -/
theorem read_of_written_v6 {ip : Ipv6} (h : Written cs (.v6 ip scope)) (rest : List Char) :
    read (cs ++ rest) = some (.v6 ip scope, rest) := by
  cases h with
  | @v6 cs zone _ _ address scope =>
      have split : '[' :: (cs ++ (zone ++ [']'])) ++ rest =
          '[' :: (cs ++ (zone ++ ']' :: rest)) := by simp
      have bracket : readMark '[' ('[' :: (cs ++ (zone ++ ']' :: rest))) =
          some (cs ++ (zone ++ ']' :: rest)) := readMark_eq_some_iff.mpr rfl
      rw [split, read, bracket]
      simp only [bind, pure, Ipv6.read_of_written address (scope.halts rest), Option.bind_some,
        scope.readScope_append, readMark_eq_some_iff.mpr rfl]

/-- A host that is written is read, unless its last number goes on. -/
theorem read_of_written (h : Written cs host) (stops : Stops decimal? rest) :
    read (cs ++ rest) = some (host, rest) := by
  cases h with
  | v4 ip =>
      obtain ⟨c, cs, begins, digit⟩ := ip.exists_chars_eq_cons
      have bare : readMark '[' (ip.chars ++ rest) = none := by
        rw [begins, List.cons_append, readMark, if_neg]
        rintro rfl
        exact absurd digit (by decide)
      rw [read, bare]
      simp only [Ipv4.read_eq_some_iff.mpr ⟨rfl, stops⟩, Option.map_some]
  | v6 address scope => exact read_of_written_v6 (.v6 address scope) rest

/-- A text is one host at most. -/
theorem Written.unique {host' : Host} (h : Written cs host) (h' : Written cs host') :
    host = host' := by
  have same := (read_of_written h Text.stops_nil).symm.trans (read_of_written h' Text.stops_nil)
  exact (Prod.mk.inj (Option.some.inj same)).1

/-- What can be added to a host so that it is still one: digits, which the last octet may take. -/
theorem Written.isDigit_of_append {more : List Char} {host' : Host} (h : Written cs host)
    (h' : Written (cs ++ more) host') : ∀ c ∈ more, c.isDigit = true := by
  have whole := read_of_written h' Text.stops_nil
  rw [List.append_nil] at whole
  cases h with
  | v6 address scope =>
      rw [read_of_written_v6 (.v6 address scope)] at whole
      rw [(Prod.mk.inj (Option.some.inj whole)).2]
      exact fun _ => nofun
  | v4 ip =>
      generalize written : ip.chars ++ more = cs' at h'
      cases h' with
      | v4 ip' =>
          have points := congrArg (List.count '.') written
          rw [List.count_append, ip.count_chars, ip'.count_chars] at points
          intro c mem
          have char : c ∈ ip'.chars := written ▸ List.mem_append_right _ mem
          refine (ip'.mem_chars char).resolve_left ?_
          rintro rfl
          have := List.count_pos_iff.mpr mem
          omega
      | v6 address scope =>
          obtain ⟨c, cs, begins, digit⟩ := ip.exists_chars_eq_cons
          rw [begins, List.cons_append] at written
          obtain ⟨rfl, -⟩ := List.cons.inj written
          exact absurd digit (by decide)

end Host

end Reminders
