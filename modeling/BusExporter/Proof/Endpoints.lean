import BusExporter.Model.Mqtt

/-! Endpoints of a broker, as they are printed and read back. -/

namespace BusExporter.Mqtt
open Lib

inductive Host
  | plain (name : String) (unbracketed : name.toList.head? ≠ some '[')
  | bracketed (addr : String) (closed : ']' ∉ addr.toList)

namespace Host

def name : Host → String
  | plain name _ => name
  | bracketed addr _ => addr

def text : Host → List Char
  | plain name _ => name.toList
  | bracketed addr _ => '[' :: (addr.toList ++ [']'])

/-- Whether the text after the last colon of a plain host cannot be read as a port. -/
def Portless : Host → Prop
  | plain name _ => ∀ before after, name.toList = before ++ ':' :: after → ':' ∉ after → parseU16 after = none
  | bracketed _ _ => True

end Host

def scheme (tls : Bool) : String := if tls then "mqtts://" else "mqtt://"

def portText : Option UInt16 → List Char
  | some port => ':' :: Nat.toDigits 10 port.toNat
  | none => []

def printEndpoint (tls : Bool) (host : Host) (port : Option UInt16) : String :=
  String.ofList ((scheme tls).toList ++ (host.text ++ portText port))

theorem parseEndpoint_scheme (tls : Bool) (rest : List Char) :
    parseEndpoint (String.ofList ((scheme tls).toList ++ rest)) = parseAuthority rest tls := by
  have text : (String.ofList ((scheme tls).toList ++ rest)).toList = (scheme tls).toList ++ rest :=
    String.toList_ofList
  rw [parseEndpoint, text]
  cases tls with
  | true =>
      have tried : stripPrefix "mqtts://".toList ((scheme true).toList ++ rest) = some rest :=
        stripPrefix_append _ _
      rw [tried]
  | false =>
      have passed : stripPrefix "mqtts://".toList ((scheme false).toList ++ rest) = none := rfl
      have tried : stripPrefix "mqtt://".toList ((scheme false).toList ++ rest) = some rest :=
        stripPrefix_append _ _
      rw [passed, tried]

theorem parseAuthority_bracketed {addr : String} (closed : ']' ∉ addr.toList) (port : Option UInt16) (tls : Bool) :
    parseAuthority ('[' :: (addr.toList ++ [']']) ++ portText port) tls =
      (addr, port.getD (defaultPort tls), tls) := by
  have opened : stripPrefix ['['] ('[' :: (addr.toList ++ [']']) ++ portText port) =
      some (addr.toList ++ ']' :: portText port) := by
    have bracket : '[' :: (addr.toList ++ [']']) ++ portText port =
        ['['] ++ (addr.toList ++ ']' :: portText port) := by simp
    rw [bracket, stripPrefix_append]
  rw [parseAuthority, opened, Option.bind_some, splitOnce_append closed]
  dsimp only
  rw [String.ofList_toList]
  cases port with
  | none => rfl
  | some port =>
      have colon : stripPrefix [':'] (portText (some port)) = some (Nat.toDigits 10 port.toNat) :=
        stripPrefix_append [':'] _
      rw [colon, Option.bind_some, parseU16_toDigits]

theorem parseAuthority_plain {rest : List Char} (unbracketed : rest.head? ≠ some '[') (tls : Bool) :
    parseAuthority rest tls = parsePlain rest tls := by
  rw [parseAuthority, stripPrefix_singleton_none unbracketed]
  rfl

theorem parsePlain_port (name : List Char) (port : UInt16) (tls : Bool) :
    parsePlain (name ++ portText (some port)) tls = (String.ofList name, port, tls) := by
  have digits : ':' ∉ Nat.toDigits 10 port.toNat := F64.not_mem_toDigits rfl _
  rw [parsePlain, portText, rsplitOnce_append _ digits]
  dsimp only
  rw [parseU16_toDigits]

theorem parsePlain_portless {name : List Char}
    (portless : ∀ before after, name = before ++ ':' :: after → ':' ∉ after → parseU16 after = none) (tls : Bool) :
    parsePlain name tls = (String.ofList name, defaultPort tls, tls) := by
  rw [parsePlain]
  by_cases colon : ':' ∈ name
  · obtain ⟨before, after, split, free⟩ := last_separator colon
    have last : rsplitOnce ':' name = some (before, after) := by rw [split, rsplitOnce_append _ free]
    rw [last]
    dsimp only
    rw [portless before after split free]
  · rw [rsplitOnce_none colon]

/-- What is printed with a port is read back, and so is what is printed without one, with the port of its
scheme, unless a plain host ends in what could be a port. -/
theorem parseEndpoint_printEndpoint (tls : Bool) (host : Host) :
    (∀ port, parseEndpoint (printEndpoint tls host (some port)) = (host.name, port, tls)) ∧
      (host.Portless → parseEndpoint (printEndpoint tls host none) = (host.name, defaultPort tls, tls)) := by
  simp only [printEndpoint, parseEndpoint_scheme]
  cases host with
  | plain name unbracketed =>
      constructor
      · intro port
        have plain : (name.toList ++ portText (some port)).head? ≠ some '[' := by
          cases start : name.toList with
          | nil => simp [portText]
          | cons c rest =>
              rw [start] at unbracketed
              exact unbracketed
        rw [Host.text, parseAuthority_plain plain, parsePlain_port, String.ofList_toList]
        rfl
      · intro portless
        rw [Host.text, portText, List.append_nil, parseAuthority_plain unbracketed,
          parsePlain_portless portless, String.ofList_toList]
        rfl
  | bracketed addr closed =>
      constructor
      · intro port
        exact parseAuthority_bracketed closed (some port) tls
      · intro _
        exact parseAuthority_bracketed closed none tls

theorem parseEndpoint_printed_broker :
    parseEndpoint "mqtts://fe80::abcd" = ("fe80::abcd", 8883, true) ∧
      parseEndpoint "mqtts://fe80::abcd:1883" = ("fe80::abcd", 1883, true) := by
  have portless : (Host.plain "fe80::abcd" (by decide)).Portless := by
    intro before after split free
    have last : rsplitOnce ':' "fe80::abcd".toList = some (before, after) := by rw [split, rsplitOnce_append _ free]
    have found : rsplitOnce ':' "fe80::abcd".toList = some ("fe80:".toList, "abcd".toList) := by decide
    cases last.symm.trans found
    decide
  have printed := parseEndpoint_printEndpoint true (.plain "fe80::abcd" (by decide))
  exact ⟨printed.2 portless, printed.1 1883⟩

end BusExporter.Mqtt
