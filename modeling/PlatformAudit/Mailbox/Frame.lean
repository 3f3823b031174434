import PlatformAudit.Message.Response
import PlatformAudit.Payload.Field
import PlatformAudit.Word.LittleEndian

/-!
# Mailbox frames

One message fills a buffer of 0x80 bytes, all words least significant byte first:

    0x00  reserved
    0x04  channel status: bit 0 says that the agent may use the channel, bit 1 reports an error
    0x08  two words of the implementation
    0x10  flags: bit 0 asks for an interrupt on completion
    0x14  length of header and payload in bytes
    0x18  header
    0x1C  payload

The payload of a response starts with its status; the payload of a notification has none.
-/

namespace PlatformAudit

/-- Why a message cannot be framed, or a buffer holds none. -/
inductive FrameError where
  | tooManyWords (count limit : Nat)
  | truncated (length needed : Nat)
  | badLength (length : Nat)
  | missingStatus
  | header (cause : HeaderError)
deriving DecidableEq, Repr

namespace FrameError

def message : FrameError → String
  | .tooManyWords count limit =>
      Text.decimal count ++ " payload words exceed the mailbox limit of " ++ Text.decimal limit
  | .truncated length needed =>
      "mailbox buffer is " ++ Text.decimal length ++ " bytes, layout needs " ++ Text.decimal needed
  | .badLength length => "invalid length field: " ++ Text.decimal length
  | .missingStatus => "response carries no status word"
  | .header cause => "bad message header: " ++ cause.message

def cause? : FrameError → Option String
  | .header cause => some cause.message
  | _ => none

end FrameError

namespace Frame

def size : Nat := 0x80

def channelStatusOffset : Nat := 0x04

def lengthOffset : Nat := 0x14

def headerOffset : Nat := 0x18

def payloadOffset : Nat := 0x1C

def free : UInt32 := 1

def channelStatusBits : UInt32 := 3

def completionInterrupt : UInt32 := 1

def lengthFor (words : Nat) : UInt32 :=
  UInt32.ofNat (4 + 4 * words)

def build (channelStatus : UInt32) (header : Header) (payload : List UInt32) : List UInt8 :=
  let words :=
    [0, channelStatus, 0, 0, completionInterrupt, lengthFor payload.length, header.encode] ++ payload
  FixedText.fit size (LittleEndian.bytesOfWords words)

def buildWithin (limit : Nat) (channelStatus : UInt32) (header : Header)
    (prologue words : List UInt32) : Except FrameError (List UInt8) :=
  if limit < words.length then
    .error (.tooManyWords words.length limit)
  else
    .ok (build channelStatus header (prologue ++ words))

def ofCommand (header : Header) (parameters : List UInt32) : Except FrameError (List UInt8) :=
  buildWithin maxPayloadWords 0 header [] parameters

def ofNotification (header : Header) (payload : List UInt32) : Except FrameError (List UInt8) :=
  buildWithin maxPayloadWords free header [] payload

/-- The buffer of a response, as the platform writes it.  The status leads the payload, except in a
notification, which has none. -/
def ofResponse (response : Response) : Except FrameError (List UInt8) :=
  if response.header.kind = .notification then
    ofNotification response.header response.returns
  else
    buildWithin maxReturnWords free response.header [response.status.toUInt32] response.returns

def read (buffer : List UInt8) : Except FrameError (Header × List UInt32) :=
  match LittleEndian.wordAt? buffer lengthOffset, LittleEndian.wordAt? buffer headerOffset with
  | some lengthWord, some headerWord =>
      let length := lengthWord.toNat
      if length < 4 ∨ length % 4 ≠ 0 then
        .error (.badLength length)
      else
        let count := (length - 4) / 4
        let needed := payloadOffset + 4 * count
        if buffer.length < needed then
          .error (.truncated buffer.length needed)
        else
          match Header.decode headerWord with
          | .error cause => .error (.header cause)
          | .ok header =>
              .ok (header, LittleEndian.words ((buffer.drop payloadOffset).take (4 * count)))
  | _, _ => .error (.truncated buffer.length payloadOffset)

def toCommand (buffer : List UInt8) : Except FrameError (Header × List UInt32) :=
  read buffer

/-- Reads a response, as the agent does.  A notification counts as successful and its whole payload
as return words. -/
def toResponse (buffer : List UInt8) : Except FrameError Response :=
  match read buffer with
  | .error cause => .error cause
  | .ok (header, words) =>
      if header.kind = .notification then
        .ok { header, status := Status.success.code, returns := words }
      else
        match words with
        | [] => .error .missingStatus
        | status :: returns => .ok { header, status := status.toInt32, returns }

/-- The kind of the message in a buffer, if there is a header word that decodes.  Nothing else of
the buffer matters. -/
def kind? (buffer : List UInt8) : Option MessageKind :=
  match LittleEndian.wordAt? buffer headerOffset with
  | none => none
  | some word =>
      match Header.decode word with
      | .error _ => none
      | .ok header => some header.kind

/-- The channel status of a buffer, without the bits that have no meaning. -/
def channelStatus? (buffer : List UInt8) : Option UInt32 :=
  (LittleEndian.wordAt? buffer channelStatusOffset).map (· &&& channelStatusBits)

def isFree (buffer : List UInt8) : Bool :=
  match channelStatus? buffer with
  | some status => status &&& free == free
  | none => false

end Frame

end PlatformAudit
