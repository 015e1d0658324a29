import ShellBridge.Json.Scan

/-!
Reading numbers.

Without point and exponent a number is an integer while it fits; everything else is a float.  The
digits of a float are gathered in a significand below `2 ^ 64`; digits that no longer fit only
move the decimal exponent.  The significand, rounded to a float, is then multiplied or divided by
a power of ten.
-/

namespace ShellBridge.Json.Numeral

open Scan

def significandBound : Nat := 0x10000000000000000

/-- The leading digits, and the rest. -/
def takeDigits : Bytes → Bytes × Bytes
  | [] => ([], [])
  | b :: rest =>
      if isDigit b then
        let (digits, rest) := takeDigits rest
        (b :: digits, rest)
      else ([], b :: rest)

def digitValue (b : UInt8) : Nat :=
  b.toNat - 0x30

/-- Digits gathered in a significand, and the number of digits that did not fit. -/
structure Gathered where
  significand : Nat
  omitted : Nat

/-- Gathers digits until one does not fit; from there on all are omitted. -/
def gather (significand : Nat) : Bytes → Gathered
  | [] => ⟨significand, 0⟩
  | d :: rest =>
      let next := significand * 10 + digitValue d
      if next < significandBound then gather next rest else ⟨significand, rest.length + 1⟩

/-- The value of exponent digits. -/
def natValue (digits : Bytes) : Nat :=
  digits.foldl (fun n d => n * 10 + digitValue d) 0

/-- The float nearest to a power of ten. -/
def powerOfTen? (k : Nat) : Option Binary64 :=
  Binary64.ofNat? (Nat.pow 10 k)

/-- The exponent of the greatest power of ten that is a float. -/
def greatestPower : Nat := 308

/-- Divides by the greatest power of ten, again and again. -/
def divideSteps : (steps : Nat) → Binary64 → Option Binary64
  | 0, x => some x
  | steps + 1, x =>
      if x.isZero then some x
      else ((powerOfTen? greatestPower).bind x.div?).bind (divideSteps steps)

/-- Divides by `10 ^ k`, in steps of the greatest power that is a float. -/
def divideByTens (x : Binary64) (k : Nat) : Option Binary64 :=
  let steps := (k - 1) / greatestPower
  match divideSteps steps x with
  | some y =>
      if y.isZero then some y else (powerOfTen? (k - steps * greatestPower)).bind y.div?
  | none => none

/-- The float `significand * 10 ^ exponent`; `none` if it is out of range. -/
def float? (significand : Nat) (exponent : Int) : Option Binary64 :=
  match Binary64.ofNat? significand, exponent with
  | none, _ => none
  | some x, .ofNat k =>
      if k ≤ greatestPower then (powerOfTen? k).bind x.mul?
      else if x.isZero then some x
      else none
  | some x, .negSucc k => divideByTens x (k + 1)

/-- An exponent beyond this bound is not computed: it means zero or out of range. -/
def exponentBound : Nat := 0x80000000

def farFloat? (significand : Nat) (negative : Bool) : Option Binary64 :=
  if significand = 0 || negative then some (.zero false) else none

def signed (negative : Bool) (x : Binary64) : Number :=
  .float (if negative then x.negate else x)

def orOutOfRange (negative : Bool) (x? : Option Binary64) (rest : Bytes) :
    Except Fault (Number × Bytes) :=
  match x? with
  | some x => .ok (signed negative x, rest)
  | none => .error (.before .numberOutOfRange rest)

/-- The exponent behind its letter. -/
def exponent (negative : Bool) (significand : Nat) (shift : Int) (input : Bytes) :
    Except Fault (Number × Bytes) :=
  let (minus, input) :=
    match input with
    | 0x2B :: rest => (false, rest)
    | 0x2D :: rest => (true, rest)
    | _ => (false, input)
  match input with
  | [] => .error (.before .endInValue [])
  | b :: rest =>
      if isDigit b then
        let (digits, rest) := takeDigits (b :: rest)
        let e := natValue digits
        if e < exponentBound then
          orOutOfRange negative (float? significand (if minus then shift - e else shift + e)) rest
        else
          orOutOfRange negative (farFloat? significand minus) rest
      else .error (.before .invalidNumber rest)

/-- The rest of a float behind its digits: an exponent, or nothing. -/
def floatTail (negative : Bool) (significand : Nat) (shift : Int) :
    Bytes → Except Fault (Number × Bytes)
  | 0x65 :: rest => exponent negative significand shift rest
  | 0x45 :: rest => exponent negative significand shift rest
  | rest => orOutOfRange negative (float? significand shift) rest

/-- The fraction behind the point. -/
def fraction (negative : Bool) (significand : Nat) (omitted : Nat) (input : Bytes) :
    Except Fault (Number × Bytes) :=
  match takeDigits input with
  | ([], []) => .error (.before .endInValue [])
  | ([], rest) => .error (.behindNext .invalidNumber rest)
  | (digits, rest) =>
      let gathered := gather significand digits
      let taken := digits.length - gathered.omitted
      floatTail negative gathered.significand ((omitted : Int) - taken) rest

/-- The integer of gathered digits, where it fits and is not a negative zero. -/
def integer? (negative : Bool) (significand : Nat) : Option Integer :=
  let i : Int := if negative then -(significand : Int) else significand
  if fits : -0x8000000000000000 ≤ i ∧ i < 0x10000000000000000 then
    if negative && significand == 0 then none else some ⟨i, fits.1, fits.2⟩
  else none

/-- A number of which the integer digits were gathered. -/
def behindWhole (negative : Bool) (gathered : Gathered) : Bytes → Except Fault (Number × Bytes)
  | 0x2E :: rest => fraction negative gathered.significand gathered.omitted rest
  | 0x65 :: rest => exponent negative gathered.significand gathered.omitted rest
  | 0x45 :: rest => exponent negative gathered.significand gathered.omitted rest
  | rest =>
      match gathered.omitted, integer? negative gathered.significand with
      | 0, some i => .ok (.int i, rest)
      | _, _ => orOutOfRange negative (float? gathered.significand gathered.omitted) rest

/-- A number behind its sign. -/
def unsigned (negative : Bool) : Bytes → Except Fault (Number × Bytes)
  | [] => .error (.before .endInValue [])
  | b :: rest =>
      if b = 0x30 then
        match rest with
        | [] => behindWhole negative ⟨0, 0⟩ []
        | c :: rest =>
            if isDigit c then .error (.behindNext .invalidNumber (c :: rest))
            else behindWhole negative ⟨0, 0⟩ (c :: rest)
      else if isDigit b then
        let (digits, rest) := takeDigits (b :: rest)
        behindWhole negative (gather 0 digits) rest
      else .error (.before .invalidNumber rest)

/-- A number from its sign or first digit on. -/
def read : Read Number
  | 0x2D :: rest => unsigned true rest
  | input => unsigned false input

/-- Passes over the exponent behind its letter. -/
def skipExponent (input : Bytes) : Except Fault Bytes :=
  let input :=
    match input with
    | 0x2B :: rest => rest
    | 0x2D :: rest => rest
    | _ => input
  match input with
  | [] => .error (.before .invalidNumber [])
  | b :: rest => if isDigit b then .ok (takeDigits rest).2 else .error (.before .invalidNumber rest)

def skipTail : Bytes → Except Fault Bytes
  | 0x65 :: rest => skipExponent rest
  | 0x45 :: rest => skipExponent rest
  | rest => .ok rest

def skipFraction (input : Bytes) : Except Fault Bytes :=
  match takeDigits input with
  | ([], rest) => .error (.behindNext .invalidNumber rest)
  | (_, rest) => skipTail rest

def skipBehindWhole : Bytes → Except Fault Bytes
  | 0x2E :: rest => skipFraction rest
  | rest => skipTail rest

def skipUnsigned : Bytes → Except Fault Bytes
  | [] => .error (.before .invalidNumber [])
  | b :: rest =>
      if b = 0x30 then
        match rest with
        | [] => .ok []
        | c :: rest =>
            if isDigit c then .error (.behindNext .invalidNumber (c :: rest))
            else skipBehindWhole (c :: rest)
      else if isDigit b then skipBehindWhole (takeDigits rest).2
      else .error (.before .invalidNumber rest)

/-- Passes over a number without computing it. -/
def skip : Bytes → Except Fault Bytes
  | 0x2D :: rest => skipUnsigned rest
  | input => skipUnsigned input

end ShellBridge.Json.Numeral
