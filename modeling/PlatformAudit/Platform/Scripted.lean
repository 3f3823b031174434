import PlatformAudit.Platform.Config

/-!
# Platforms that answer by rule

A scripted platform follows a list of rules.  It is how platforms that misbehave in a chosen way
are put in front of a plan: a rule may garble headers, statuses and return words, and may queue late
messages that nobody has asked for.
-/

namespace PlatformAudit

/-- A change to a header. -/
structure HeaderEdit where
  tokenFlips : UInt16 := 0
  protocol : Option UInt8 := none
  message : Option UInt8 := none
  kind : Option MessageKind := none
  reserved : Option UInt8 := none
deriving Repr

def HeaderEdit.apply (edit : HeaderEdit) (header : Header) : Header where
  reserved := edit.reserved.getD header.reserved
  token := header.token ^^^ edit.tokenFlips
  protocol := edit.protocol.getD header.protocol
  kind := edit.kind.getD header.kind
  message := edit.message.getD header.message

/-- A late completion that a rule queues. -/
structure ScriptedDelay where
  edit : HeaderEdit
  status : Int32
  returns : List UInt32
deriving Repr

/-- A notification that a rule queues. -/
structure ScriptedNotice where
  protocol : UInt8
  message : UInt8
  payload : List UInt32
deriving Repr

/-- How some commands are answered. -/
structure Rule where
  /-- The message that the rule is for; nothing means every message. -/
  message : Option UInt8 := none
  /-- The parameters that the rule is for; nothing means all. -/
  parameters : Option (List UInt32) := none
  /-- How often the rule may still be used; nothing means without end. -/
  remaining : Option Nat := none
  status : Int32 := 0
  returns : List UInt32 := []
  text : Option String := none
  echo : Bool := false
  edit : HeaderEdit := {}
  delayed : List ScriptedDelay := []
  notices : List ScriptedNotice := []
deriving Repr

namespace Rule

def appliesTo (rule : Rule) (header : Header) (parameters : List UInt32) : Bool :=
  rule.message.all (· == header.message) && rule.parameters.all (· == parameters) &&
    rule.remaining.all (0 < ·)

def used (rule : Rule) : Rule :=
  { rule with remaining := rule.remaining.map (· - 1) }

def response (rule : Rule) (header : Header) (parameters : List UInt32) : Response where
  header := rule.edit.apply header
  status := rule.status
  returns :=
    rule.returns
      ++ (rule.text.map fun text => FixedText.encode text Protocol.nameWords).getD []
      ++ (if rule.echo then parameters else [])

def posts (rule : Rule) (header : Header) : List Post :=
  rule.delayed.map (fun delay => .delayed (delay.edit.apply header) delay.status delay.returns)
    ++ rule.notices.map fun notice => .notification notice.protocol notice.message notice.payload

end Rule

/-- Splits a list of rules at the first one that answers a command. -/
def firstRule? (header : Header) (parameters : List UInt32) :
    List Rule → Option (List Rule × Rule × List Rule)
  | [] => none
  | rule :: rest =>
      if rule.appliesTo header parameters then some ([], rule, rest)
      else
        (firstRule? header parameters rest).map fun (before, found, behind) =>
          (rule :: before, found, behind)

/-- A handler that follows rules and leaves the rest to a service, if it has one. -/
structure Scripted where
  rules : List Rule := []
  inner : Option Service := none

instance : Handler Scripted where
  respond scripted header parameters :=
    match firstRule? header parameters scripted.rules with
    | some (before, rule, behind) =>
        { response := rule.response header parameters
          posts := rule.posts header
          next := { scripted with rules := before ++ rule.used :: behind } }
    | none =>
        match scripted.inner with
        | none => { response := .ofStatus header .notFound, next := scripted }
        | some service =>
            let reply := Handler.respond service header parameters
            { response := reply.response
              posts := reply.posts
              next := { scripted with inner := some reply.next } }

end PlatformAudit
