import Bibliography.CiteKey.Formatter
import Bibliography.CiteKey.Pinned
import Bibliography.CiteKey.Suffix

/-! # The key registry

A registry gives every entry of a batch its key. Pinned keys are given first, as they are, even if
two records pin the same one. Then every other record asks for its candidate, and gets it with the
first free suffix if it is taken. In the end each record learns which others asked for the same key.
-/

namespace Bibliography.CiteKey
set_option autoImplicit false

/-- A record that asked for a key. -/
structure Request where
  itemId : Text
  pinned : Bool
deriving DecidableEq, Repr

/-- What is known of a key that was given. -/
structure KeyEntry where
  /-- The candidate of the record that holds the key. -/
  candidate : Text
  /-- All who asked for the key, in the order in which they did. -/
  requests : List Request
deriving DecidableEq, Repr

/-- The key of one record. -/
structure ItemKey where
  key : Text
  pinned : Bool
  /-- The candidate, if the record got another key. -/
  candidate : Option Text
  /-- The other records that asked for the same key. -/
  rivals : Option (List Text)
deriving DecidableEq, Repr

/-- Two records pin the same key; both keep it. -/
structure RepeatedPin where
  key : Text
  itemId : Text
deriving DecidableEq, Repr

/-- How the warning reads. -/
def RepeatedPin.message (w : RepeatedPin) : Text :=
  "duplicate pinned key " ++ w.key ++ " on item " ++ w.itemId

/-- The keys of a batch. -/
structure Registry where
  formatter : Formatter
  /-- The keys that were given, in that order. -/
  entries : Dict KeyEntry
  items : Dict ItemKey
  warnings : List RepeatedPin
  assigned : Bool

namespace Registry

/-- A registry before its first batch. -/
def new (f : Formatter) : Registry := ⟨f, ∅, ∅, [], false⟩

/-- The registry made ready for another batch: everything it noted is cleared. -/
def reset (g : Registry) : Registry :=
  { g with entries := ∅, items := ∅, warnings := [], assigned := false }

/-! ## Giving keys -/

/-- The key with the first suffix that makes it free, and the empty key if none does. One of the
first suffixes does, as there are more of them than keys that were given. -/
def suffixed (entries : Dict KeyEntry) (key : Text) : Text :=
  ((List.range (entries.pairs.length + 1)).find? fun n => !entries.has (key ++ suffix n)).elim []
    fun n => key ++ suffix n

/-- A key that is given for the first time. -/
def give (entries : Dict KeyEntry) (key candidate : Text) (who : Request) : Dict KeyEntry :=
  entries.put key ⟨candidate, [who]⟩

/-- A record asks for a key: the entries after that, and the key it gets. -/
def request (entries : Dict KeyEntry) (key : Text) (who : Request) : Dict KeyEntry × Text :=
  match entries.get? key with
  | none => (give entries key key who, key)
  | some entry =>
    let entries := entries.put key { entry with requests := entry.requests ++ [who] }
    if who.pinned then (entries, key)
    else
      let free := suffixed entries key
      (give entries free key who, free)

/-- Notes the key a record got. -/
def record (g : Registry) (itemId : Text) (got : Dict KeyEntry × Text) : Registry :=
  { g with entries := got.1, items := g.items.put itemId ⟨got.2, false, none, none⟩ }

/-- Gives a record the key it pins. -/
def givePinned (g : Registry) (r : Record) : Registry :=
  match pinnedKey? r.extra with
  | none => g
  | some key =>
    let warned :=
      if g.entries.has key then { g with warnings := g.warnings ++ [⟨key, r.itemId⟩] } else g
    warned.record r.itemId (request g.entries key ⟨r.itemId, true⟩)

/-- The key a record asks for: its cleaned format, or its cleaned library key if nothing is left. -/
def candidate (f : Formatter) (r : Record) : Text :=
  let key := clean (f.format r)
  if key.isEmpty then clean (Formatter.fallback r) else key

/-- Gives a record a key of its own. -/
def giveGenerated (g : Registry) (r : Record) : Registry :=
  g.record r.itemId (request g.entries (candidate g.formatter r) ⟨r.itemId, false⟩)

/-! ## Linking -/

/-- The others among those who asked for a key. -/
def others (requests : List Request) (itemId : Text) : List Text :=
  (requests.filter fun q => q.itemId != itemId).map Request.itemId

/-- What a record learns from an entry it asked for. -/
def learn (entry : KeyEntry) (asked : Request) (item : ItemKey) : ItemKey :=
  let item :=
    if asked.pinned then { item with pinned := true }
    else if item.key != entry.candidate then { item with candidate := some entry.candidate }
    else item
  match others entry.requests asked.itemId with
  | [] => item
  | found => { item with rivals := some (item.rivals.getD [] ++ found) }

/-- All who asked for a key learn of one another. -/
def linkEntry (items : Dict ItemKey) (entry : KeyEntry) : Dict ItemKey :=
  entry.requests.foldl (fun items q => items.update q.itemId (learn entry q)) items

/-- Every entry is linked, in the order in which the keys were given. -/
def link (g : Registry) : Registry :=
  { g with items := (g.entries.pairs.map Prod.snd).foldl linkEntry g.items }

/-! ## Batches -/

/-- The record is an entry and pins its key. -/
def isPinned (r : Record) : Bool := r.isExportable && (pinnedKey? r.extra).isSome

/-- The record is an entry whose key has to be made. -/
def isGenerated (r : Record) : Bool := r.isExportable && (pinnedKey? r.extra).isNone

/-- The record without the directive that pins its key. -/
def withoutPin (r : Record) : Record :=
  if r.isExportable then
    match Pin.find? r.extra with
    | some pin => { r with extra := pin.remainder }
    | none => r
  else r

/-- Gives the entries of a batch their keys, and returns the records without their directives. Once
keys are given, further batches pass untouched until the registry is reset. -/
def assign (g : Registry) (records : List Record) : Registry × List Record :=
  if g.assigned then (g, records)
  else
    let g := { g with assigned := true }
    let g := (records.filter isPinned).foldl givePinned g
    let g := (records.filter isGenerated).foldl giveGenerated g
    (g.link, records.map withoutPin)

/-! ## Looking up -/

/-- What is known of the key of a record. -/
def state? (g : Registry) (itemId : Text) : Option ItemKey := g.items.get? itemId

/-- The key of a record. -/
def keyOf? (g : Registry) (itemId : Text) : Option Text := (g.state? itemId).map ItemKey.key

/-- What is known of a key. -/
def entry? (g : Registry) (key : Text) : Option KeyEntry := g.entries.get? key

/-- The records that have a key, each with its key. -/
def itemKeys (g : Registry) : List (Text × Text) := g.items.pairs.map fun p => (p.1, p.2.key)

end Registry
end Bibliography.CiteKey
