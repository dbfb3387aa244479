import CloudThreat.Json
import CloudThreat.Sha256

namespace CloudThreat

structure CacheEntry where
  reply : String
  storedAt : Nat
  /-- The count of reads and writes at the last use. -/
  lastUsed : Nat
deriving Repr, DecidableEq

structure CacheStatistics where
  size : Nat
  maxSize : Nat
  hits : Nat
  misses : Nat
  hitRate : Double
  ttlSecs : Nat
deriving Repr, DecidableEq

def CacheStatistics.toJson (s : CacheStatistics) : Json :=
  Json.object [
    ("size", Json.ofNat s.size),
    ("max_size", Json.ofNat s.maxSize),
    ("hits", Json.ofNat s.hits),
    ("misses", Json.ofNat s.misses),
    ("hit_rate", Json.ofDouble s.hitRate),
    ("ttl_secs", Json.ofNat s.ttlSecs)]

structure ReplyCache where
  maxSize : Nat
  timeToLive : Nat
  entries : List (String × CacheEntry)
  clock : Nat
  hits : Nat
  misses : Nat
deriving Repr, DecidableEq

namespace ReplyCache

/-- An empty cache; it has room for one entry at least. -/
def new (maxSize timeToLive : Nat) : ReplyCache :=
  ⟨max maxSize 1, timeToLive, [], 0, 0, 0⟩

def defaultSize : Nat := 1000

def defaultTimeToLive : Nat := 3600 * 1000

/-- What is hashed: the role of the model and the prompt with a mark between them. -/
def keyText (prompt : String) (systemPrompt : Option String) : String :=
  systemPrompt.getD "" ++ "|||" ++ prompt

def key (prompt : String) (systemPrompt : Option String) : String :=
  Sha256.hexOf (keyText prompt systemPrompt)

def size (c : ReplyCache) : Nat := c.entries.length

def isEmpty (c : ReplyCache) : Bool := c.entries.isEmpty

def isExpired (c : ReplyCache) (now : Nat) (e : CacheEntry) : Bool :=
  c.timeToLive < now - e.storedAt

def without (k : String) (entries : List (String × CacheEntry)) : List (String × CacheEntry) :=
  entries.filter fun e => e.1 != k

/-- Put an entry under a key, in the place of an earlier one. -/
def put (k : String) (e : CacheEntry) (entries : List (String × CacheEntry)) :
    List (String × CacheEntry) :=
  without k entries ++ [(k, e)]

/-- The entries but for the one not used for longest. -/
def evictOldest (entries : List (String × CacheEntry)) : List (String × CacheEntry) :=
  match (entries.map (·.2.lastUsed)).min? with
  | some oldest => entries.filter fun e => e.2.lastUsed != oldest
  | none => entries

/-- Look under a key. An expired entry is dropped and counts as missing. -/
def getKey (c : ReplyCache) (now : Nat) (k : String) : Option String × ReplyCache :=
  let clock := c.clock + 1
  match c.entries.lookup k with
  | none => (none, { c with clock, misses := c.misses + 1 })
  | some e =>
    if c.isExpired now e then
      (none, { c with clock, entries := without k c.entries, misses := c.misses + 1 })
    else
      (some e.reply,
        { c with clock, entries := put k { e with lastUsed := clock } c.entries, hits := c.hits + 1 })

/-- Store under a key. Only a new key can drive out another. -/
def setKey (c : ReplyCache) (now : Nat) (k reply : String) : ReplyCache :=
  let clock := c.clock + 1
  let kept :=
    if (c.entries.lookup k).isNone && c.maxSize ≤ c.size then evictOldest c.entries else c.entries
  { c with clock, entries := put k ⟨reply, now, clock⟩ kept }

def get (c : ReplyCache) (now : Nat) (prompt : String) (systemPrompt : Option String) :
    Option String × ReplyCache :=
  c.getKey now (key prompt systemPrompt)

def set (c : ReplyCache) (now : Nat) (prompt reply : String) (systemPrompt : Option String) :
    ReplyCache :=
  c.setKey now (key prompt systemPrompt) reply

/-- Forget all entries and what was counted. -/
def clear (c : ReplyCache) : ReplyCache :=
  { c with entries := [], hits := 0, misses := 0 }

/-- Drop every expired entry; the number of them goes with the result. -/
def removeExpired (c : ReplyCache) (now : Nat) : Nat × ReplyCache :=
  let kept := c.entries.filter fun e => !c.isExpired now e.2
  (c.size - kept.length, { c with entries := kept })

/-- The share of hits in percent. -/
def hitRate (c : ReplyCache) : Double :=
  if c.hits + c.misses = 0 then Double.zero
  else Double.ofNat c.hits / Double.ofNat (c.hits + c.misses) * Double.ofNat 100

def statistics (c : ReplyCache) : CacheStatistics :=
  ⟨c.size, c.maxSize, c.hits, c.misses, c.hitRate, c.timeToLive / 1000⟩

end ReplyCache

end CloudThreat
