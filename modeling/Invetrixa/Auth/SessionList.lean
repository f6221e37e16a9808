import Invetrixa.Library.Paging
import Invetrixa.Library.Table
import Invetrixa.Schema
import Mathlib.Data.List.Sort
import Mathlib.Data.String.Basic

/-!
# The list of sessions

`AuthService.listActiveSessions` over the cache: the index of the sessions of each user, the
metadata of each session under its own key, and how long the session has still to live. The time at
which a session expires is counted from the clock as it stands when the loop comes to it.

## Main definitions

- `Dates.iso`, `Collation.codePoints` — dates and texts as a run of the model has them
- `SessionCache` — the part of the cache that is read and cleaned up
- `serializeMetadataForCache`, `deserializeCachedMetadata`
- `compareSessions` — the comparator of the sort
- `listActiveSessions` — one page of the list
- `visit` — one page after another
-/

namespace Invetrixa

open Rowstore

def SESSION_LIST_DEFAULT_PAGE_SIZE : ℕ := 10
def SESSION_LIST_MAX_PAGE_SIZE : ℕ := 50

/-- Dates and their texts. -/
structure Dates where
  /-- `Date.parse`, without a value where it gives `NaN` -/
  parse : String → Option ℤ
  /-- without a value where it throws a `RangeError` -/
  toISOString : ℤ → Option String

/-- A number with zeros in front. -/
def zeroPadded (width n : ℕ) : String :=
  String.ofList ((Nat.toDigits 10 n).leftpad width '0')

/-- The year, month and day of a day, counted from 1970-01-01. -/
def civilDate (days : ℤ) : ℤ × ℕ × ℕ :=
  -- the calendar repeats itself after 146097 days; the year is taken to begin in March
  let era := (days + 719468) / 146097
  let dayOfEra := ((days + 719468) % 146097).toNat
  let yearOfEra := (dayOfEra - dayOfEra / 1460 + dayOfEra / 36524 - dayOfEra / 146096) / 365
  let dayOfYear := dayOfEra - (365 * yearOfEra + yearOfEra / 4 - yearOfEra / 100)
  let month := (5 * dayOfYear + 2) / 153
  (era * 400 + yearOfEra + if month < 10 then 0 else 1,
    if month < 10 then month + 3 else month - 9, dayOfYear - (153 * month + 2) / 5 + 1)

/-- The day of a date. -/
def dayOf (year : ℤ) (month day : ℕ) : ℤ :=
  let year := if month ≤ 2 then year - 1 else year
  let yearOfEra := (year % 400).toNat
  let dayOfYear := (153 * (if 2 < month then month - 3 else month + 9) + 2) / 5 + day - 1
  year / 400 * 146097 + (yearOfEra * 365 + yearOfEra / 4 - yearOfEra / 100 + dayOfYear : ℕ) - 719468

def yearText (year : ℤ) : String :=
  if 0 ≤ year ∧ year ≤ 9999 then zeroPadded 4 year.toNat
  else (if year < 0 then "-" else "+") ++ zeroPadded 6 year.natAbs

def number (digits : List Char) : ℕ := digits.foldl (fun n d => 10 * n + (d.toNat - '0'.toNat)) 0

/-- Dates as texts such as 1970-01-01T00:01:00.000Z; other texts are not read. -/
def Dates.iso : Dates where
  toISOString time :=
    if |time| ≤ 8640000000000000 then
      let (year, month, day) := civilDate (time / 86400000)
      let clock := (time % 86400000).toNat
      some (yearText year ++ "-" ++ zeroPadded 2 month ++ "-" ++ zeroPadded 2 day ++ "T" ++
        zeroPadded 2 (clock / 3600000) ++ ":" ++ zeroPadded 2 (clock / 60000 % 60) ++ ":" ++
        zeroPadded 2 (clock / 1000 % 60) ++ "." ++ zeroPadded 3 (clock % 1000) ++ "Z")
    else none
  parse text :=
    match text.toList.splitOn 'T' with
    | [date, clock] =>
      match date.reverse, clock with
      | d₀ :: d₁ :: '-' :: m₀ :: m₁ :: '-' :: year,
        [h₁, h₀, ':', i₁, i₀, ':', s₁, s₀, '.', u₂, u₁, u₀, 'Z'] =>
        let year : ℤ := match year.reverse with
          | '-' :: digits => -number digits
          | '+' :: digits => number digits
          | digits => number digits
        some (dayOf year (number [m₁, m₀]) (number [d₁, d₀]) * 86400000 +
          number [h₁, h₀] * 3600000 + number [i₁, i₀] * 60000 + number [s₁, s₀] * 1000 +
          number [u₂, u₁, u₀])
      | _, _ => none
    | _ => none

/-- The order of texts, negative where the first one comes first. -/
structure Collation where
  localeCompare : String → String → ℤ
  neg_iff : ∀ a b, localeCompare a b < 0 ↔ 0 < localeCompare b a
  trans : ∀ a b c, localeCompare a b < 0 → localeCompare b c < 0 → localeCompare a c < 0
  eq_of_eq_zero : ∀ a b, localeCompare a b = 0 → a = b

/-- The order of texts by the codes of their letters, which is that of ids in small letters. -/
def Collation.codePoints : Collation where
  localeCompare a b := if a < b then -1 else if b < a then 1 else 0
  neg_iff a b := by
    rcases lt_trichotomy a b with h | h | h
    · simp [h, h.not_gt]
    · simp [h]
    · simp [h, h.not_gt]
  trans a b c hab hbc := by
    have hlt : ∀ x y : String, (if x < y then (-1 : ℤ) else if y < x then 1 else 0) < 0 → x < y := by
      intro x y h
      by_contra hnot
      rw [if_neg hnot] at h
      split at h <;> omega
    rw [if_pos ((hlt a b hab).trans (hlt b c hbc))]
    omega
  eq_of_eq_zero a b h := by
    rcases lt_trichotomy a b with hlt | heq | hgt
    · simp [hlt] at h
    · exact heq
    · simp [hgt, hgt.not_gt] at h

structure SessionCache where
  /-- the sessions of each user, a set -/
  index : String → List String
  nodup : ∀ userId, (index userId).Nodup
  /-- a hash for each session -/
  metadata : String → Table String String
  /-- the seconds that a session has to live: -2 where there is none, -1 where it lives on -/
  ttl : String → ℤ

/-- What a call finds outside: the clock as it stands when the loop comes to a session, and the order
in which the cache lists a set. -/
structure SessionListCall where
  now : String → ℕ
  sMembers : List String → List String
  perm : ∀ ids, (sMembers ids).Perm ids

/-- A call that finds a set in the order in which its members were put in. -/
def SessionListCall.atTimes (now : String → ℕ) : SessionListCall where
  now := now
  sMembers := id
  perm _ := List.Perm.refl _

structure SessionMetadata where
  deviceName : Option String
  osName : Option String
  userAgent : Option String
  ipAddress : Option String
  location : Option String
  lastLoginAt : Option String

structure CachedMetadata where
  userId : Option String
  metadata : SessionMetadata
  requiresTwoFactor : Bool
  twoFactorVerified : Bool

/-- A value that is there and not empty. -/
def normalize (value : Option String) : Option String := value.filter (· ≠ "")

def deserializeCachedMetadata (raw : Table String String) : CachedMetadata where
  userId := raw.find? "userId"
  metadata :=
    { deviceName := normalize (raw.find? "deviceName")
      osName := normalize (raw.find? "osName")
      userAgent := normalize (raw.find? "userAgent")
      ipAddress := normalize (raw.find? "ipAddress")
      location := normalize (raw.find? "location")
      lastLoginAt := normalize (raw.find? "lastLoginAt") }
  requiresTwoFactor := raw.find? "requiresTwoFactor" = some "1"
  twoFactorVerified := raw.find? "twoFactorVerified" = some "1"

/-- What is put under the key of a session. -/
def serializeMetadataForCache (userId : String) (requiresTwoFactor twoFactorVerified : Bool)
    (metadata : SessionMetadata) (updatedAt : String) : Table String String where
  rows :=
    [("userId", userId),
     ("requiresTwoFactor", if requiresTwoFactor then "1" else "0"),
     ("twoFactorVerified", if twoFactorVerified then "1" else "0"),
     ("deviceName", metadata.deviceName.getD ""),
     ("osName", metadata.osName.getD ""),
     ("userAgent", metadata.userAgent.getD ""),
     ("ipAddress", metadata.ipAddress.getD ""),
     ("location", metadata.location.getD ""),
     ("lastLoginAt", metadata.lastLoginAt.getD ""),
     ("updatedAt", updatedAt)]
  nodup := by simp

structure SessionSummary where
  sessionId : String
  expiresAt : Option String
  idleSecondsRemaining : Option ℤ
  requiresTwoFactor : Bool
  twoFactorVerified : Bool
  isCurrent : Bool
  deviceName : Option String
  osName : Option String
  userAgent : Option String
  ipAddress : Option String
  location : Option String
  lastLoginAt : Option String

structure SessionListResult where
  items : List SessionSummary
  totalItems : ℕ
  page : ℕ
  pageSize : ℕ
  totalPages : ℕ
  hasNextPage : Bool
  hasPreviousPage : Bool

namespace AuthService

section Call

variable (dates : Dates) (collation : Collation) (call : SessionListCall)
  (userId : String) (currentSessionId : Option String)

/-- What the list says of a session, unless the time of its expiry is no date. -/
def sessionSummary (sessionId : String) (ttl : ℤ) (cached : CachedMetadata) :
    Option SessionSummary := do
  let expiresAt ←
    if 0 < ttl then some <$> dates.toISOString (call.now sessionId + ttl * 1000) else some none
  return {
    sessionId := sessionId
    expiresAt := expiresAt
    idleSecondsRemaining := if 0 < ttl then some ttl else none
    requiresTwoFactor := cached.requiresTwoFactor
    twoFactorVerified := cached.twoFactorVerified
    isCurrent := currentSessionId = some sessionId
    deviceName := cached.metadata.deviceName
    osName := cached.metadata.osName
    userAgent := cached.metadata.userAgent
    ipAddress := cached.metadata.ipAddress
    location := cached.metadata.location
    lastLoginAt := cached.metadata.lastLoginAt }

/-- Whether there is nothing to list of a session, and what is left of it is to be cleaned up. -/
def isStale (cache : SessionCache) (sessionId : String) : Bool :=
  let rawMetadata := cache.metadata sessionId
  let ttl := cache.ttl sessionId
  if ttl = -2 ∨ ttl = 0 then true
  else if rawMetadata.rows.length = 0 then true
  else
    let cached := deserializeCachedMetadata rawMetadata
    normalize cached.userId = none ∨ cached.userId ≠ some userId

/-- The loop over the sessions: what it lists, unless it throws, and what it has found to clean
up. -/
def enumerate (cache : SessionCache) : List String → Option (List SessionSummary) × List String
  | [] => (some [], [])
  | sessionId :: rest =>
    if isStale userId cache sessionId then
      let (summaries, stale) := enumerate cache rest
      (summaries, sessionId :: stale)
    else
      match sessionSummary dates call currentSessionId sessionId (cache.ttl sessionId)
          (deserializeCachedMetadata (cache.metadata sessionId)) with
      | none => (none, [])
      | some summary =>
        let (summaries, stale) := enumerate cache rest
        (summaries.map (summary :: ·), stale)

/-- The metadata goes, and the place in the index of the user. -/
def cleanupSessionArtifacts (sessionId : String) (cache : SessionCache) : SessionCache :=
  { cache with
    metadata := Function.update cache.metadata sessionId .empty
    index := fun user =>
      if userId ≠ "" ∧ user = userId then (cache.index user).erase sessionId else cache.index user
    nodup := fun user => by
      split
      · exact (cache.nodup user).erase sessionId
      · exact cache.nodup user }

def toTimestamp (value : Option String) : ℤ :=
  match value with
  | none => 0
  | some text => if text = "" then 0 else (dates.parse text).getD 0

/-- The comparator: negative where the first session comes first. -/
def compareSessions (a b : SessionSummary) : ℤ :=
  if a.isCurrent ≠ b.isCurrent then if a.isCurrent then -1 else 1
  else
    let bLogin := toTimestamp dates b.lastLoginAt
    let aLogin := toTimestamp dates a.lastLoginAt
    if bLogin ≠ aLogin then bLogin - aLogin
    else
      let bExpires := toTimestamp dates b.expiresAt
      let aExpires := toTimestamp dates a.expiresAt
      if bExpires ≠ aExpires then bExpires - aExpires
      else collation.localeCompare a.sessionId b.sessionId

/-- `sort`, which keeps the order of what the comparator does not tell apart. -/
def sortSummaries (summaries : List SessionSummary) : List SessionSummary :=
  summaries.insertionSort fun a b => compareSessions dates collation a b ≤ 0

/-- A number of the request that is missing or not finite gets its default, as does one below one. -/
def requested (value : Option ℚ) (default : ℕ) : ℕ :=
  if 0 < ⌊value.getD default⌋ then ⌊value.getD default⌋.toNat else default

def listActiveSessions (page pageSize : Option ℚ) (cache : SessionCache) :
    Except HttpError SessionListResult × SessionCache :=
  let page := requested page 1
  let pageSize := min SESSION_LIST_MAX_PAGE_SIZE (requested pageSize SESSION_LIST_DEFAULT_PAGE_SIZE)
  let (summaries, stale) :=
    enumerate dates call userId currentSessionId cache (call.sMembers (cache.index userId))
  let cleaned := stale.foldl (fun cache id => cleanupSessionArtifacts userId id cache) cache
  match summaries with
  | none => (.error (.unauthorized "Unable to load session list."), cleaned)
  | some summaries =>
    let sortedSummaries := sortSummaries dates collation summaries
    let totalItems := sortedSummaries.length
    let totalPages := if totalItems = 0 then 0 else Paging.pageCount pageSize totalItems
    let effectivePage := if totalPages = 0 then 1 else min page totalPages
    let startIndex := (effectivePage - 1) * pageSize
    let paginatedItems :=
      if totalItems = 0 then [] else (sortedSummaries.drop startIndex).take pageSize
    (.ok
      { items := paginatedItems
        totalItems
        page := effectivePage
        pageSize
        totalPages
        hasNextPage := 0 < totalPages && effectivePage < totalPages
        hasPreviousPage := 0 < totalPages && 1 < effectivePage }, cleaned)

end Call

/-- One page of the list after another, each by a call of its own on what the one before has left in
the cache. -/
def visit (dates : Dates) (collation : Collation) (call : ℕ → SessionListCall) (userId : String)
    (currentSessionId : Option String) (pageSize : Option ℚ) :
    List ℕ → SessionCache → List (Except HttpError SessionListResult)
  | [], _ => []
  | page :: pages, cache =>
    let (result, cache') := listActiveSessions dates collation (call page) userId currentSessionId
      (some page) pageSize cache
    result :: visit dates collation call userId currentSessionId pageSize pages cache'

end AuthService

end Invetrixa
