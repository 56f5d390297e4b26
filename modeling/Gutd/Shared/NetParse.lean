import Gutd.Shared.Net
import Gutd.Shared.Str

set_option autoImplicit false

namespace Net

open Bytes Str

abbrev Reader (α : Type) := Buf → Option (α × Buf)

def readGivenChar (c : UInt8) : Reader Unit
  | [] => none
  | b :: rest => if b = c then some ((), rest) else none

def readSeparator {α : Type} (separator : UInt8) (index : Nat) (inner : Reader α) : Reader α := fun text => do
  let rest ← if index > 0 then (readGivenChar separator text).map (·.2) else some text
  inner rest

def readNumber (radix max : Nat) (maxDigits : Option Nat) (allowZeroPrefix : Bool) : Reader Nat := fun text =>
  let digits := text.takeWhile fun b => (digitValue radix b).isSome
  let value := digits.foldl (fun value b => value * radix + (digitValue radix b).getD 0) 0
  if maxDigits.any (· < digits.length) then none
  else if digits = [] then none
  else if !allowZeroPrefix && text.head? = some 0x30 && 1 < digits.length then none
  else if max < value then none
  else some (value, text.drop digits.length)

def readOctet : Reader Nat := readNumber 10 255 (some 3) false

def readIpv4Addr : Reader (Vector UInt8 4) := fun text => do
  let (a, text) ← readSeparator 0x2E 0 readOctet text
  let (b, text) ← readSeparator 0x2E 1 readOctet text
  let (c, text) ← readSeparator 0x2E 2 readOctet text
  let (d, text) ← readSeparator 0x2E 3 readOctet text
  some (#v[UInt8.ofNat a, UInt8.ofNat b, UInt8.ofNat c, UInt8.ofNat d], text)

def readGroups : (left index : Nat) → Buf → List UInt16 × Bool × Buf
  | 0, _, text => ([], false, text)
  | left + 1, index, text =>
      match if 0 < left then readSeparator 0x3A index readIpv4Addr text else none with
      | some (octets, rest) =>
          ([UInt16.ofNat ((octets.get 0).toNat * 256 + (octets.get 1).toNat),
            UInt16.ofNat ((octets.get 2).toNat * 256 + (octets.get 3).toNat)], true, rest)
      | none =>
          match readSeparator 0x3A index (readNumber 16 65535 (some 4) true) text with
          | some (group, rest) =>
              let (groups, endsV4, rest) := readGroups left (index + 1) rest
              (UInt16.ofNat group :: groups, endsV4, rest)
          | none => ([], false, text)

def segmentsOf (groups : List UInt16) : Vector UInt16 8 := Vector.ofFn fun i => groups.getD i.val 0

def readIpv6Addr : Reader (Vector UInt16 8) := fun text => do
  let (head, headV4, text) := readGroups 8 0 text
  if head.length = 8 then some (segmentsOf head, text)
  else if headV4 then none
  else
    let (_, text) ← readGivenChar 0x3A text
    let (_, text) ← readGivenChar 0x3A text
    let (tail, _, text) := readGroups (8 - (head.length + 1)) 0 text
    some (segmentsOf (head ++ List.replicate (8 - head.length - tail.length) 0 ++ tail), text)

def parseIpv4Addr (text : Buf) : Option (Vector UInt8 4) :=
  match readIpv4Addr text with
  | some (octets, []) => some octets
  | _ => none

def readIpAddr : Reader IpAddr := fun text =>
  match readIpv4Addr text with
  | some (octets, rest) => some (.v4 octets, rest)
  | none => (readIpv6Addr text).map fun (segments, rest) => (.v6 segments, rest)

def readPort : Reader Nat := readNumber 10 65535 none true

def readSocketAddrV4 : Reader SocketAddr := fun text => do
  let (octets, text) ← readIpv4Addr text
  let (_, text) ← readGivenChar 0x3A text
  let (port, text) ← readPort text
  some (⟨.v4 octets, UInt16.ofNat port⟩, text)

def readSocketAddrV6 : Reader SocketAddr := fun text => do
  let (_, text) ← readGivenChar 0x5B text
  let (segments, text) ← readIpv6Addr text
  let zone := do
    let (_, text) ← readGivenChar 0x25 text
    readNumber 10 4294967295 none true text
  let text := zone.elim text (·.2)
  let (_, text) ← readGivenChar 0x5D text
  let (_, text) ← readGivenChar 0x3A text
  let (port, text) ← readPort text
  some (⟨.v6 segments, UInt16.ofNat port⟩, text)

def readSocketAddr : Reader SocketAddr := fun text => (readSocketAddrV4 text).or (readSocketAddrV6 text)

def parseWith {α : Type} (reader : Reader α) (text : Buf) : Option α :=
  match reader text with
  | some (a, []) => some a
  | _ => none

def parseIpAddr (text : Buf) : Option IpAddr := parseWith readIpAddr text

def parseSocketAddr (text : Buf) : Option SocketAddr := parseWith readSocketAddr text

example : parseIpAddr (ascii "fe80::1:0:203.0.113.7") = some (.v6 #v[0xFE80, 0, 0, 0, 1, 0, 0xCB00, 0x7107]) := by decide

example : parseSocketAddr (ascii "[::1]:443") = some ⟨.v6 #v[0, 0, 0, 0, 0, 0, 0, 1], 443⟩ := by decide

end Net
