import HidMend.Text.Hex

/-!
# YAML tags

A tag says what kind of value a node is.  It is a sequence of octets, none of them zero, and is
written in ASCII: a percent sign and two digits stand for any octet.  Octets beyond ASCII come in
groups, in which the first says how many others follow, and the whole group has to be written with
percent signs.

A tag is mostly written in short, as a handle and a suffix; the handle stands for the beginning of
the tag.
-/

namespace HidMend.Yaml

abbrev Tag := List UInt8

namespace Tag

/-- How many octets follow an octet in its group, if it may be the first of one. -/
def followers? (octet : UInt8) : Option Nat :=
  if octet < 0x80 then some 0
  else if octet < 0xC0 then none
  else if octet < 0xE0 then some 1
  else if octet < 0xF0 then some 2
  else if octet < 0xF8 then some 3
  else none

/-- How many octets of a group are missing behind an octet, if `missing` were in front of it. -/
def missingAfter? (missing : Nat) (octet : UInt8) : Option Nat :=
  match missing with
  | 0 => followers? octet
  | more + 1 => if 0x80 ≤ octet && octet < 0xC0 then some more else none

/-- The octets of a written tag, where `missing` octets are still expected in the current group. -/
def octetsFrom? (missing : Nat) : List Char → Option (List UInt8)
  | [] => if missing = 0 then some [] else none
  | '%' :: first :: second :: rest =>
      if Hex.isDigit first && Hex.isDigit second then
        let octet := (Hex.value [first, second]).toUInt8
        (missingAfter? missing octet).bind fun next => (octetsFrom? next rest).map (octet :: ·)
      else none
  | char :: rest =>
      if missing = 0 ∧ char ≠ '%' then
        (octetsFrom? 0 rest).map (char.toNat.toUInt8 :: ·)
      else none

/-- Read a written tag, or a part of one; it ends in front of an octet that is zero. -/
def ofWritten? (written : List Char) : Option Tag :=
  (octetsFrom? 0 written).map (·.takeWhile (· != 0))

/-- The octets of a text in ASCII. -/
def ofAscii (text : String) : Tag :=
  text.toList.map (·.toNat.toUInt8)

/-- The tag of a node that is explicitly untyped. -/
def untyped : Tag := ofAscii "!"

/-- The beginning of the tags that every schema shares. -/
def core : Tag := ofAscii "tag:yaml.org,2002:"

/-- The tag of truth values. -/
def bool : Tag := core ++ ofAscii "bool"

end Tag

/-- Handles and the beginnings of tags that they stand for. -/
abbrev Handles := List (List Char × Tag)

namespace Handles

/-- The handle of tags that are private to a text. -/
def primary : List Char := ['!']

def default : Handles :=
  [(['!', '!'], Tag.core), (primary, Tag.untyped)]

/-- The tag of a handle and a written suffix. -/
def tag? (handles : Handles) (handle suffix : List Char) : Option Tag :=
  match Tag.ofWritten? suffix with
  | none => none
  | some [] =>
      if handle = primary then some Tag.untyped
      else if suffix.isEmpty then none
      else handles.lookup handle
  | some octets => (handles.lookup handle).map (· ++ octets)

end Handles

end HidMend.Yaml
