import PlatformAudit.Word.BitRange

/-!
# Message headers

Every message starts with a header word:

    31    28 27        18 17          10 9    8 7            0
    reserved    token       protocol      kind      message

A header in memory may hold a token or a reserved nibble that is too wide for its place.  Encoding
keeps the low bits of each, so that no part spills into another.
-/

namespace PlatformAudit

/-- What a message is. -/
inductive MessageKind where
  /-- A command of the agent.  The immediate answer has this kind too. -/
  | command
  | delayedResponse
  /-- A message that the platform sends of its own accord. -/
  | notification
deriving DecidableEq, Repr

namespace MessageKind

def code : MessageKind → UInt32
  | .command => 0
  | .delayedResponse => 2
  | .notification => 3

def ofCode? (code : UInt32) : Option MessageKind :=
  if code = 0 then some .command
  else if code = 2 then some .delayedResponse
  else if code = 3 then some .notification
  else none

def text : MessageKind → String
  | .command => "command"
  | .delayedResponse => "delayed response"
  | .notification => "notification"

end MessageKind

/-- What a platform sends besides its immediate answers. -/
inductive Late where
  | delayedResponse
  | notification
deriving DecidableEq, Repr

def Late.kind : Late → MessageKind
  | .delayedResponse => .delayedResponse
  | .notification => .notification

/-- The header of a message. -/
structure Header where
  reserved : UInt8 := 0
  token : UInt16 := 0
  protocol : UInt8
  kind : MessageKind := .command
  message : UInt8
deriving DecidableEq, Repr

/-- A header word whose kind has no meaning. -/
inductive HeaderError where
  | invalidKind (code : UInt32)
deriving DecidableEq, Repr

def HeaderError.message : HeaderError → String
  | .invalidKind code => "invalid message type: " ++ Text.decimal code.toNat

namespace Header

def reservedRange : BitRange where
  msb := 31
  lsb := 28

def tokenRange : BitRange where
  msb := 27
  lsb := 18

def protocolRange : BitRange where
  msb := 17
  lsb := 10

def kindRange : BitRange where
  msb := 9
  lsb := 8

def messageRange : BitRange where
  msb := 7
  lsb := 0

def maxToken : UInt16 := 0x3FF

def command (protocol message : UInt8) : Header where
  protocol := protocol
  message := message

/-- The token behind a token.  Behind the largest one comes zero again. -/
def nextToken (token : UInt16) : UInt16 :=
  (token + 1) &&& maxToken

/-- The same header with another token, of which the low ten bits are kept. -/
def withToken (header : Header) (token : UInt16) : Header :=
  { header with token := token &&& maxToken }

def encode (header : Header) : UInt32 :=
  let withReserved := reservedRange.overwrite 0 header.reserved.toUInt32
  let withToken := tokenRange.overwrite withReserved header.token.toUInt32
  let withProtocol := protocolRange.overwrite withToken header.protocol.toUInt32
  let withKind := kindRange.overwrite withProtocol header.kind.code
  messageRange.overwrite withKind header.message.toUInt32

/-- The header word of a message with the reserved nibble clear and a token cut to ten bits. -/
def encodeFields (protocol : UInt8) (kind : MessageKind) (message : UInt8) (token : UInt16) :
    UInt32 :=
  encode { token := token &&& maxToken, protocol, kind, message }

def decode (word : UInt32) : Except HeaderError Header :=
  let code := kindRange.read word
  match MessageKind.ofCode? code with
  | none => .error (.invalidKind code)
  | some kind =>
      .ok
        { reserved := (reservedRange.read word).toUInt8
          token := (tokenRange.read word).toUInt16
          protocol := (protocolRange.read word).toUInt8
          kind
          message := (messageRange.read word).toUInt8 }

/-- Whether two headers belong to the same command: protocol and message agree. -/
def Matches (sent received : Header) : Prop :=
  sent.protocol = received.protocol ∧ sent.message = received.message

instance (sent received : Header) : Decidable (sent.Matches received) :=
  inferInstanceAs (Decidable (_ ∧ _))

def text (header : Header) : String :=
  header.kind.text ++ " protocol=" ++ Text.hexByte header.protocol ++
    " message=" ++ Text.hexByte header.message ++ " token=" ++ Text.decimal header.token.toNat

end Header

end PlatformAudit
