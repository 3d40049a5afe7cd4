import PropAMM.Router.Calls

/-! # Planning arithmetic of the split

Memory arrays are lists: a read or a write past the end panics.
-/

namespace PropAMM

structure Candidate where
  venue : Address
  fill : Nat
  out : Nat
  deriving DecidableEq, Repr

/-- `type(uint128).max` -/
def maxU128 : Nat := 2 ^ 128 - 1

namespace SplitPlanner

def saturationToleranceBps : Nat := 100

def bps : Nat := 10000

def maxSaturationSteps : Nat := 8

def isSaturated (outFull outHalf : Nat) : Checked Bool := do
  let lhs ← checkedMul outFull bps
  let twice ← checkedMul 2 outHalf
  let kept ← checkedSub bps saturationToleranceBps
  let rhs ← checkedMul twice kept
  return lhs < rhs

/-- `a` beats `b`: the better rate, and on a tie the larger fill. -/
def betterThan (a b : Candidate) : Checked Bool := do
  let lhs ← checkedMul a.out b.fill
  let rhs ← checkedMul b.out a.fill
  if lhs ≠ rhs then return lhs > rhs
  else return a.fill > b.fill

def readAt (cands : List Candidate) (i : Nat) : Checked Candidate :=
  match cands[i]? with
  | some v => .ok v
  | none => .error (.panicked 0x32)

def writeAt (c : List Candidate) (i : Nat) (v : Candidate) : Checked (List Candidate) :=
  if i < c.length then .ok (c.set i v) else .error (.panicked 0x32)

/-- The inner `while`: while `key` beats `c[j-1]`, copy `c[j-1]` into `c[j]` and
    step down. Returns the slot left for `key`. -/
def shiftDown (key : Candidate) : Nat → List Candidate → Checked (Nat × List Candidate)
  | 0, c => .ok (0, c)
  | j + 1, c => do
    let prev ← readAt c j
    if ← betterThan key prev then
      let c ← writeAt c (j + 1) prev
      shiftDown key j c
    else return (j + 1, c)

/-- `rounds` iterations of the outer loop from index `i`. -/
def sortLoop : (rounds i : Nat) → List Candidate → Checked (List Candidate)
  | 0, _, c => .ok c
  | rounds + 1, i, c => do
    let key ← readAt c i
    let (j, c) ← shiftDown key i c
    let c ← writeAt c j key
    sortLoop rounds (i + 1) c

/-- In-place insertion sort. -/
def sortByRateDesc (c : List Candidate) : Checked (List Candidate) := sortLoop (c.length - 1) 1 c

def proRataMin (out fill leg : Nat) : Checked Nat :=
  if leg = fill then .ok out
  else do
    let scaled ← checkedMul out leg
    checkedDiv scaled fill

end SplitPlanner

end PropAMM
