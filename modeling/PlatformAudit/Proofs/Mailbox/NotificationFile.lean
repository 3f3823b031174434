import PlatformAudit.Mailbox.Mailbox
import PlatformAudit.Proofs.Mailbox.StatusWord

/-!
# The notification file

The notification file is a place for one message, which is there as long as the length in the file
is not zero.  Before a message is taken, the kind in its header word is looked at, and afterwards it
is read.  Both look at the same bytes, so a message that is taken is of the awaited kind, or cannot
be read at all.
-/

namespace PlatformAudit

open LittleEndian

namespace Mailbox

/-! ### What a file holds -/

/-- There is a message in a file: its length is completely there and is not zero. -/
def Occupied (contents : List UInt8) : Prop :=
  0x18 ≤ contents.length ∧ Frame.declaredLength contents ≠ 0

instance (contents : List UInt8) : Decidable (Occupied contents) :=
  inferInstanceAs (Decidable (_ ∧ _))

/-- The message in a file tells its kind: its header word is completely there and has the number of
the kind. -/
def Tells (contents : List UInt8) (kind : MessageKind) : Prop :=
  0x1C ≤ contents.length ∧ Frame.kindNumber contents = kind.code.toNat

instance (contents : List UInt8) (kind : MessageKind) : Decidable (Tells contents kind) :=
  inferInstanceAs (Decidable (_ ∧ _))

/-- The message in a file is one for a wait, if it does not tell another kind. -/
def MeantFor (late : Late) (contents : List UInt8) : Prop :=
  Occupied contents ∧ ∀ kind, Tells contents kind → kind = late.kind

/-- A file whose message was taken: the four bytes of the length are zero, and all other bytes are
as they were. -/
def emptied (contents : List UInt8) : List UInt8 :=
  contents.take 0x14 ++ [0, 0, 0, 0] ++ contents.drop 0x18

section Contents

variable {contents : List UInt8} {kind other : MessageKind} {late : Late}

theorem Tells.unique (tells : Tells contents kind) (also : Tells contents other) : kind = other :=
  MessageKind.code_inj.mp (tells.2.symm.trans also.2)

theorem meantFor_iff_of_tells (occupied : Occupied contents) (tells : Tells contents kind) :
    MeantFor late contents ↔ kind = late.kind := by
  constructor
  · intro meant
    exact meant.2 kind tells
  · intro same
    exact ⟨occupied, fun other also => (also.unique tells).trans same⟩

theorem not_meantFor_of_command (command : Tells contents .command) : ¬MeantFor late contents := by
  intro meant
  exact late.kind_ne_command (meant.2 .command command).symm

theorem meantFor_or_other (occupied : Occupied contents) (late : Late) :
    MeantFor late contents ∨ ∃ kind, Tells contents kind ∧ kind ≠ late.kind := by
  by_cases told : ∃ kind, Tells contents kind ∧ kind ≠ late.kind
  · exact .inr told
  · refine .inl ⟨occupied, fun kind tells => ?_⟩
    exact Decidable.byContradiction fun other => told ⟨kind, tells, other⟩

theorem meantFor_or_tells {first second : Late} (occupied : Occupied contents)
    (different : first ≠ second) (noCommand : ¬Tells contents .command) :
    MeantFor first contents ∨ Tells contents second.kind := by
  rcases meantFor_or_other occupied first with meant | ⟨kind, tells, other⟩
  · exact .inl meant
  · have someLate : kind ≠ .command := fun command => noCommand (command ▸ tells)
    rw [Late.kind_eq_of_ne different someLate other] at tells
    exact .inr tells

theorem length_start (occupied : Occupied contents) : (contents.take 0x14).length = 0x14 := by
  have long := occupied.1
  rw [List.length_take]
  omega

theorem declaredLength_emptied (occupied : Occupied contents) :
    Frame.declaredLength (emptied contents) = 0 := by
  have behind : (emptied contents).drop 0x14 = [0, 0, 0, 0] ++ contents.drop 0x18 := by
    rw [emptied, List.append_assoc]
    exact List.drop_left' (length_start occupied)
  have number := numberAt_drop (emptied contents) 0x14 0
  rw [behind] at number
  exact number.symm

theorem not_occupied_emptied (occupied : Occupied contents) : ¬Occupied (emptied contents) :=
  fun again => again.2 (declaredLength_emptied occupied)

end Contents

/-! ### Taking a message -/

def notified (mailbox : Mailbox) (contents : List UInt8) : Mailbox :=
  { mailbox with notification := some (.file contents) }

section Take

variable {contents : List UInt8} {late : Late} {limitMs : Nat}

theorem holdsMessage_iff (bytes : List UInt8) : holdsMessage bytes = true ↔ Occupied bytes := by
  have small : Frame.declaredLength bytes < 0x100000000 := numberAt_lt bytes 0x14
  have length : wordAt? bytes Frame.lengthOffset =
      if 0x18 ≤ bytes.length then some (UInt32.ofNat (Frame.declaredLength bytes)) else none :=
    wordAt?_eq bytes 0x14
  rw [holdsMessage, length, Occupied]
  by_cases long : 0x18 ≤ bytes.length
  · rw [if_pos long, and_iff_right long]
    simp only [bne_iff_ne, Ne]
    rw [← UInt32.toNat_inj, UInt32.toNat_ofNat_of_lt' small]
    rfl
  · simp [long]

theorem occupied_take (contents : List UInt8) :
    Occupied (contents.take 0x80) ↔ Occupied contents := by
  have length : Frame.declaredLength (contents.take 0x80) = Frame.declaredLength contents :=
    numberAt_take (by decide)
  rw [Occupied, Occupied, length, List.length_take]
  omega

theorem tells_take (contents : List UInt8) (kind : MessageKind) :
    Tells (contents.take 0x80) kind ↔ Tells contents kind := by
  have number : Frame.kindNumber (contents.take 0x80) = Frame.kindNumber contents :=
    congrArg (· / 0x100 % 4) (numberAt_take (by decide))
  rw [Tells, Tells, number, List.length_take]
  omega

theorem otherKind?_eq_some_iff (late : Late) (bytes : List UInt8) (kind : MessageKind) :
    otherKind? late bytes = some kind ↔ Tells bytes kind ∧ kind ≠ late.kind := by
  rw [otherKind?, Option.filter_eq_some_iff, Frame.kind?_eq_some_iff, Tells, decide_eq_true_eq]

theorem take_empty (mailbox : Mailbox) (late : Late) (empty : ¬Occupied contents) :
    take limitMs (mailbox.notified contents) late =
      (.error (.silence limitMs), mailbox.notified contents) := by
  have nothing : ¬holdsMessage (contents.take 0x80) = true :=
    fun holds => empty ((occupied_take contents).mp ((holdsMessage_iff _).mp holds))
  exact if_neg nothing

theorem take_other (mailbox : Mailbox) {kind : MessageKind} (occupied : Occupied contents)
    (tells : Tells contents kind) (other : kind ≠ late.kind) :
    take limitMs (mailbox.notified contents) late =
      (.error (.unexpectedKind late.kind kind), mailbox.notified contents) := by
  have there : holdsMessage (contents.take 0x80) = true :=
    (holdsMessage_iff _).mpr ((occupied_take contents).mpr occupied)
  have told : otherKind? late (contents.take 0x80) = some kind :=
    (otherKind?_eq_some_iff late _ kind).mpr ⟨(tells_take contents kind).mpr tells, other⟩
  have read : buffer (.file contents) = contents.take 0x80 := rfl
  simp only [take, notified, read, there, if_true, told]

theorem take_meant (mailbox : Mailbox) (meant : MeantFor late contents) :
    take limitMs (mailbox.notified contents) late =
      (ofFrame (Frame.toResponse (contents.take 0x80)), mailbox.notified (emptied contents)) := by
  obtain ⟨occupied, awaited⟩ := meant
  have there : holdsMessage (contents.take 0x80) = true :=
    (holdsMessage_iff _).mpr ((occupied_take contents).mpr occupied)
  have told : otherKind? late (contents.take 0x80) = none := by
    cases told : otherKind? late (contents.take 0x80) with
    | none => rfl
    | some kind =>
        obtain ⟨tells, other⟩ := (otherKind?_eq_some_iff late _ kind).mp told
        exact absurd (awaited kind ((tells_take contents kind).mp tells)) other
  have noGap : 0x14 - contents.length = 0 := by
    have long := occupied.1
    omega
  have written : Channel.splice contents Frame.lengthOffset emptyMark = emptied contents := by
    change contents.take 0x14 ++ List.replicate (0x14 - contents.length) 0 ++ emptyMark ++
      contents.drop (0x14 + emptyMark.length) = _
    rw [noGap, List.replicate_zero, List.append_nil]
    rfl
  have read : buffer (.file contents) = contents.take 0x80 := rfl
  simp only [take, notified, read, there, if_true, told, Channel.writeAt, written]

/-- What is read from a message that was meant for a wait is of the awaited kind. -/
theorem MeantFor.kind_eq {response : Response} (meant : MeantFor late contents)
    (read : Frame.toResponse (contents.take 0x80) = .ok response) :
    response.header.kind = late.kind := by
  have headed := (Frame.responseOf_of_toResponse read).1.headed
  have number := Frame.kindNumber_of_toResponse read
  exact meant.2 _ ((tells_take contents _).mp ⟨headed, number⟩)

end Take

end Mailbox

end PlatformAudit
