import Mathlib

/-!
# Field types of the ledger events

The scalar fields of an event are constrained strings and numbers: identifiers
are UUIDs, amounts are canonical decimal strings of at most 38 digits, asset
codes and provider codes match a pattern.  Each becomes a type that carries its
constraint, so a value of it has already passed the field check.

An aware `datetime` is kept in its UTC normal form, a calendar date and a time
of the day in microseconds; equality and order of two aware datetimes are
those of their UTC normal forms.
-/

namespace TrackAnywhere.Ports

/-- A UUID as its 128-bit integer, by which UUIDs are compared. -/
abbrev UUID := Fin (2 ^ 128)

/-- A SHA-256 digest, or its 64 lowercase hexadecimal digits. -/
abbrev EventHash := Fin (2 ^ 256)

-- named, so that every literal and lookup of these types refers to the same proof
instance uuid_neZero : NeZero (2 ^ 128) := inferInstance
instance eventHash_neZero : NeZero (2 ^ 256) := inferInstance
instance uuid_lawfulBEq : LawfulBEq UUID := inferInstance
instance uuidPair_lawfulBEq : LawfulBEq (UUID × UUID) := inferInstance

/-! ## Constrained strings -/

/-- The pattern `^first rest{0,maxRest}$`. -/
def matchesPattern (first rest : Char → Bool) (maxRest : Nat) (s : String) :
    Bool :=
  match s.toList with
  | [] => false
  | c :: cs => first c && decide (cs.length ≤ maxRest) && cs.all rest

def isUpper (c : Char) : Bool := decide ('A' ≤ c ∧ c ≤ 'Z')
def isLower (c : Char) : Bool := decide ('a' ≤ c ∧ c ≤ 'z')
def isDigit (c : Char) : Bool := decide ('0' ≤ c ∧ c ≤ '9')

/-- `^[A-Z][A-Z0-9._-]{0,15}$` -/
def assetCodePattern : String → Bool :=
  matchesPattern isUpper
    (fun c => isUpper c || isDigit c || ['.', '_', '-'].contains c) 15

/-- `^[a-z][a-z0-9_-]{0,31}$` -/
def providerCodePattern : String → Bool :=
  matchesPattern isLower
    (fun c => isLower c || isDigit c || ['_', '-'].contains c) 31

/-- A letter or digit, then at most 127 letters, digits, dots, underscores,
colons, slashes and hyphens. -/
def externalReferencePattern : String → Bool :=
  matchesPattern (fun c => isUpper c || isLower c || isDigit c)
    (fun c => isUpper c || isLower c || isDigit c
      || ['.', '_', ':', '/', '-'].contains c) 127

abbrev AssetCode := { s : String // assetCodePattern s }
abbrev ProviderCode := { s : String // providerCodePattern s }
abbrev ExternalReferenceValue := { s : String // externalReferencePattern s }

instance assetCode_lawfulBEq : LawfulBEq AssetCode := inferInstance

/-- The strings `^[1-9][0-9]{0,37}$`, as the numbers they denote. -/
abbrev CanonicalUnits := { n : Nat // 0 < n ∧ n < 10 ^ 38 }

/-! ## Dates and instants -/

instance microseconds_neZero : NeZero 86400000000 := inferInstance

def isLeapYear (year : Nat) : Bool :=
  year % 4 = 0 && (year % 100 ≠ 0 || year % 400 = 0)

def daysInMonth (year month : Nat) : Nat :=
  if month = 2 then (if isLeapYear year then 29 else 28)
  else if month ∈ [4, 6, 9, 11] then 30 else 31

/-- A calendar date in the range of `datetime.date`. -/
structure Date where
  year : Nat
  month : Nat
  day : Nat
  hYear : 1 ≤ year ∧ year ≤ 9999
  hMonth : 1 ≤ month ∧ month ≤ 12
  hDay : 1 ≤ day ∧ day ≤ daysInMonth year month
deriving DecidableEq

namespace Date

theorem day_le (d : Date) : d.day ≤ 31 := by
  refine d.hDay.2.trans ?_
  unfold daysInMonth
  split_ifs <;> omega

/-- The date as the number `yyyymmdd`, which orders dates. -/
def ordinal (d : Date) : Nat := d.year * 10000 + d.month * 100 + d.day

theorem ordinal_injective : Function.Injective ordinal := by
  rintro ⟨y, m, d, hy, hm, hd⟩ ⟨y', m', d', hy', hm', hd'⟩ h
  have hle : d ≤ 31 := day_le ⟨y, m, d, hy, hm, hd⟩
  have hle' : d' ≤ 31 := day_le ⟨y', m', d', hy', hm', hd'⟩
  simp only [ordinal] at h
  have hYear : y = y' := by omega
  have hMonth : m = m' := by omega
  have hDay : d = d' := by omega
  subst hYear hMonth hDay
  rfl

instance : LinearOrder Date := LinearOrder.lift' ordinal ordinal_injective

end Date

/-- An aware `datetime` in UTC: the date, and the microseconds of the day. -/
structure Instant where
  date : Date
  micros : Fin 86400000000
deriving DecidableEq

namespace Instant

/-- Date and time of day in one number, which orders instants. -/
def ordinal (t : Instant) : Nat := t.date.ordinal * 86400000000 + t.micros

theorem ordinal_injective : Function.Injective ordinal := by
  rintro ⟨d, u⟩ ⟨d', u'⟩ h
  simp only [ordinal] at h
  have hu := u.isLt
  have hu' := u'.isLt
  have hDate : d = d' := Date.ordinal_injective (by omega)
  have hMicros : u = u' := Fin.ext (by omega)
  rw [hDate, hMicros]

instance : LinearOrder Instant :=
  LinearOrder.lift' ordinal ordinal_injective

end Instant

/-- `utc_date`: the UTC calendar date of a financial instant. -/
def utcDate (value : Instant) : Date := value.date

/-- `month_start`: the same month, day one. -/
def monthStart (value : Date) : Date where
  year := value.year
  month := value.month
  day := 1
  hYear := value.hYear
  hMonth := value.hMonth
  hDay := ⟨le_rfl, value.hDay.1.trans value.hDay.2⟩

/-- `next_month`: the first day of the following month.  December 9999 has
none, and `date(10000, 1, 1)` raises. -/
def nextMonth (value : Date) : Option Date :=
  let year := if value.month = 12 then value.year + 1 else value.year
  let month := if value.month = 12 then 1 else value.month + 1
  if h : (1 ≤ year ∧ year ≤ 9999) ∧ (1 ≤ month ∧ month ≤ 12)
      ∧ 1 ≤ daysInMonth year month then
    some ⟨year, month, 1, h.1, h.2.1, le_rfl, h.2.2⟩
  else none

end TrackAnywhere.Ports
