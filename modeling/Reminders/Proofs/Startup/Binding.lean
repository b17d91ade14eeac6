import Reminders.Config
import Reminders.Proofs.Address.Grammar

/-!
# Where the service listens

Host and port are put together to one text with a colon between them, and the text is read as an
address. The text can be taken apart in one way only: behind the colon that was put in there are
digits and nothing else, so no part of the host is taken for the port. Hence the address has the
port of the configuration, and its host is what the host says by itself (`bindAddress_eq_ok_iff`).
-/

namespace Reminders

open Text (Spells Stops decimal? not_mem_of_values spells_iff_exists_values spells_toDigits
  stops_cons_iff)

variable {cs : List Char}

/-- A text is taken apart at its last mark in one way. -/
theorem append_cons_inj {mark : Char} {front front' back back' : List Char} (h : mark ∉ back)
    (h' : mark ∉ back') :
    front ++ mark :: back = front' ++ mark :: back' ↔ front = front' ∧ back = back' := by
  constructor
  · intro same
    rcases List.append_eq_append_iff.mp same with ⟨middle, rfl, tail⟩ | ⟨middle, rfl, tail⟩
    · cases middle with
      | nil => exact ⟨(List.append_nil _).symm, (List.cons.inj tail).2⟩
      | cons c middle =>
          rw [(List.cons.inj tail).2] at h
          exact absurd (by simp) h
    · cases middle with
      | nil => exact ⟨List.append_nil _, (List.cons.inj tail).2.symm⟩
      | cons c middle =>
          rw [(List.cons.inj tail).2] at h'
          exact absurd (by simp) h'
  · rintro ⟨rfl, rfl⟩
    rfl

theorem Text.Spells.not_mem_colon {n : Nat} (h : Spells cs n) : ':' ∉ cs := by
  obtain ⟨ds, values, -⟩ := spells_iff_exists_values.mp h
  exact not_mem_of_values values rfl

namespace SocketAddress

/-- An address is a host, a colon and a port in any decimal digits. -/
theorem parse?_eq_some_iff {address : SocketAddress} :
    parse? cs = some address ↔
      ∃ front back, cs = front ++ ':' :: back ∧ Host.Written front address.host ∧ back ≠ [] ∧
        Spells back address.port.toNat := by
  simp only [parse?, bind, Option.bind_eq_some_iff, Prod.exists, readMark_eq_some_iff,
    readWord_eq_some_iff]
  constructor
  · rintro ⟨host, _, read, port, rest, ⟨_, rfl, back, nonempty, rfl, spells, -⟩, whole⟩
    obtain ⟨front, rfl, written⟩ := Host.exists_written_of_read read
    split at whole
    · next ends =>
        cases whole
        rw [List.isEmpty_iff.mp ends, List.append_nil]
        exact ⟨front, back, rfl, written, nonempty, spells⟩
    · cases whole
  · rintro ⟨front, back, rfl, written, nonempty, spells⟩
    have colon : Stops decimal? (':' :: back) := stops_cons_iff.mpr rfl
    exact ⟨address.host, ':' :: back, Host.read_of_written written colon, address.port, [],
      ⟨back, rfl, back, nonempty, (List.append_nil back).symm, spells, Text.stops_nil⟩, rfl⟩

end SocketAddress

namespace Config

variable {config : Config}

theorem bindAddress_eq_ok_iff {address : SocketAddress} :
    config.bindAddress = .ok address ↔
      address.port = config.port ∧ Host.Written config.host.toList address.host := by
  have digits := spells_toDigits config.port.toNat
  have text : (config.host ++ ":" ++ toString config.port.toNat).toList =
      config.host.toList ++ ':' :: Nat.toDigits 10 config.port.toNat := by
    simp
  have bound : config.bindAddress = .ok address ↔
      SocketAddress.parse? (config.host.toList ++ ':' :: Nat.toDigits 10 config.port.toNat) =
        some address := by
    rw [bindAddress, SocketAddress.ofText?, text]
    cases SocketAddress.parse? _ <;> simp
  rw [bound, SocketAddress.parse?_eq_some_iff]
  constructor
  · rintro ⟨front, back, same, written, nonempty, spells⟩
    obtain ⟨rfl, rfl⟩ := (append_cons_inj digits.not_mem_colon spells.not_mem_colon).mp same
    exact ⟨BitVec.eq_of_toNat_eq (spells.unique digits), written⟩
  · rintro ⟨port, written⟩
    refine ⟨config.host.toList, _, rfl, written, Nat.toDigits_ne_nil, ?_⟩
    rw [port]
    exact digits

example : bindAddress ⟨"[::FFFF:1.2.3.4%007]", 8080, "1.0", none⟩ =
    .ok ⟨.v6 ⟨[0, 0, 0, 0, 0, 0xFFFF, 0x0102, 0x0304], rfl⟩ 7, 8080⟩ := by
  decide +kernel

theorem bindAddress_eq_error_iff :
    config.bindAddress = .error .address ↔
      ∀ host, ¬Host.Written config.host.toList host := by
  constructor
  · intro fails host written
    have bound : config.bindAddress = .ok ⟨host, config.port⟩ :=
      bindAddress_eq_ok_iff.mpr ⟨rfl, written⟩
    rw [fails] at bound
    cases bound
  · intro unwritten
    cases bound : config.bindAddress with
    | ok address => exact absurd (bindAddress_eq_ok_iff.mp bound).2 (unwritten address.host)
    | error fault =>
        rw [bindAddress] at bound
        split at bound <;> cases bound
        rfl

/-- The bind address cannot be smuggled. An address to listen at has the port of the configuration
and the host that the host text denotes by itself; every text that denotes a host is taken, with
every port, and no other. A text denotes one host at most. Behind a host that is taken nothing but
digits can be added, so it can bring neither a port of its own nor more colons nor any other text.
-/
theorem host_decides_bindAddress (config : Config) :
    (∀ address, config.bindAddress = .ok address ↔
      address.port = config.port ∧ Host.Written config.host.toList address.host) ∧
    (config.bindAddress = .error .address ↔ ∀ host, ¬Host.Written config.host.toList host) ∧
    (∀ host host', Host.Written config.host.toList host → Host.Written config.host.toList host' →
      host = host') ∧
    ∀ address, config.bindAddress = .ok address → ∀ more address',
      { config with host := config.host ++ more }.bindAddress = .ok address' →
        ∀ c ∈ more.toList, c.isDigit = true := by
  refine ⟨fun _ => bindAddress_eq_ok_iff, bindAddress_eq_error_iff,
    fun _ _ => Host.Written.unique, ?_⟩
  intro address bound more address' bound'
  have written := (bindAddress_eq_ok_iff.mp bound).2
  have written' := (bindAddress_eq_ok_iff.mp bound').2
  rw [String.toList_append] at written'
  exact written.isDigit_of_append written'

end Config

end Reminders
