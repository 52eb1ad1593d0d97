import SchemaStruct.Json.Read
import SchemaStruct.Text.Blank

/-!
# Addresses of Hosts

The numeric addresses that may stand in brackets in place of a host's name: eight groups of up to
four hexadecimal digits, where one run of zero groups may be left out and the last two groups may be
written as four decimal numbers; and the form reserved for future versions.
-/

namespace SchemaStruct.Address

/-- Whether a text is a decimal number up to 255 without zeros in front. -/
def isOctet (cs : List Char) : Bool :=
  !cs.isEmpty && cs.all Char.isDigit && cs.length ≤ 3 && (cs == ['0'] || cs.head? != some '0') &&
    Json.digitsValue cs ≤ 255

/-- Whether a text is an address of the old version: four decimal numbers with points. -/
def isFour (cs : List Char) : Bool :=
  let parts := Text.splitOn '.' cs
  parts.length == 4 && parts.all isOctet

/-- Whether a text is a group of one to four hexadecimal digits. -/
def isGroup (cs : List Char) : Bool :=
  !cs.isEmpty && cs.length ≤ 4 && cs.all fun c => (Json.hexValue? c).isSome

/-- The groups with a decimal ending written as two hexadecimal groups, if it is one. -/
def unfoldEnding (parts : List (List Char)) : Option (List (List Char)) :=
  match parts.getLast? with
  | some last =>
    if last.contains '.' then
      if isFour last then some (parts.dropLast ++ [['0'], ['0']]) else none
    else some parts
  | none => none

/-- Whether groups make up an address: eight of them, or fewer around a gap. An empty group at
either end belongs to a gap there. -/
def areGroups (parts : List (List Char)) : Bool :=
  let inner := (parts.drop 1).dropLast
  -- a gap shows as an empty group between two others, and there is at most one
  match (inner.filter List.isEmpty).length with
  | 0 => parts.length == 8 && parts.all isGroup
  | 1 =>
    let before := parts.take (1 + (inner.takeWhile (!·.isEmpty)).length)
    let after := parts.drop (before.length + 1)
    -- a gap at an end leaves nothing on its side
    let high := if before == [[]] then [] else before
    let low := if after == [[]] then [] else after
    high.all isGroup && low.all isGroup && high.length + low.length < 8
  | _ => false

/-- Whether a text is an address of the present version, possibly with the name of a zone. -/
def isSix (cs : List Char) : Bool :=
  let address := cs.takeWhile (· != '%')
  let zone := (cs.dropWhile (· != '%'))
  let zoneOk := match zone with
    | [] => true
    | _ :: name => !name.isEmpty && !name.contains '%'
  let parts := Text.splitOn ':' address
  zoneOk && !cs.contains '/' && 3 ≤ parts.length &&
    match unfoldEnding parts with
    | some parts => parts.length ≤ 9 && areGroups parts
    | none => false

/-- Whether a text is an address of a future version: a version number and something behind a
point. -/
def isFuture (cs : List Char) : Bool :=
  match cs with
  | 'v' :: rest =>
    let version := rest.takeWhile fun c => (Json.hexValue? c).isSome
    let behind := rest.drop version.length
    !version.isEmpty && behind.head? == some '.' && 2 ≤ behind.length && !behind.contains '\n'
  | _ => false

end SchemaStruct.Address
