import RuleLint.Unicode.Runs

namespace RuleLint.Unicode

/-- Rows of code points that fold by one distance: the first of them, how many there are, the step
from one to the next, and the distance, which may be negative. -/
def foldingTable : List String := [
  "1t,q,1,w 51,1,1,lj 5c,n,1,w 60,7,1,w 74,o,2,1 8i,3,2,1 8p,8,2,1 96,n,2,1 ag,1,1,-3d ah,3,2,1",
  "an,1,1,-7g ap,1,1,5u aq,2,2,1 au,1,1,5q av,1,1,1 ax,2,1,5p az,1,1,1 b2,1,1,27 b3,1,1,5m",
  "b4,1,1,5n b5,1,1,1 b7,1,1,5p b8,1,1,5r ba,1,1,5v bb,1,1,5t bc,1,1,1 bg,1,1,5v bh,1,1,5x",
  "bj,1,1,5y bk,3,2,1 bq,1,1,62 br,1,1,1 bt,1,1,62 bw,1,1,1 by,1,1,62 bz,1,1,1 c1,2,1,61 c3,2,2,1",
  "c7,1,1,63 c8,1,1,1 cc,1,1,1 ck,1,1,2 cl,1,1,1 cn,1,1,2 co,1,1,1 cq,1,1,2 cr,9,2,1 da,9,2,1",
  "dt,1,1,2 du,2,2,1 dy,1,1,-2p dz,1,1,-1k e0,k,2,1 f4,1,1,-3m f6,9,2,1 fu,1,1,8bv fv,1,1,1",
  "fx,1,1,-4j fy,1,1,8bs g1,1,1,1 g3,1,1,-5f g4,1,1,1x g5,1,1,1z g6,5,2,1 n9,1,1,38 og,2,2,1",
  "om,1,1,1 ov,1,1,38 p2,1,1,12 p4,3,1,11 p8,1,1,1s pa,2,1,1r pd,h,1,w pv,9,1,w qq,1,1,1 r3,1,1,8",
  "r4,1,1,-u r5,1,1,-p r9,1,1,-f ra,1,1,-m rc,c,2,1 s0,1,1,-1i s1,1,1,-1c s4,1,1,-1o s5,1,1,-1s",
  "s7,1,1,1 s9,1,1,-7 sa,1,1,1 sd,3,1,-3m sg,g,1,28 sw,w,1,w v4,h,2,1 wa,r,2,1 xs,1,1,f xt,7,2,1",
  "y8,1c,2,1 10x,12,1,1c 3a8,12,1,5ls 3bb,1,1,5ls 3bh,1,1,5ls 3y0,6,1,-8 5mo,1,1,-4su 5mp,1,1,-4st",
  "5mq,1,1,-4sk 5mr,2,1,-4si 5mt,1,1,-4sj 5mu,1,1,-4sc 5mv,1,1,-4ro 5mw,1,1,r7n 5n4,17,1,-2bk",
  "5od,3,1,-2bk 5xc,23,2,1 61n,1,1,-1m 61q,1,1,-5vj 61s,1c,2,1 64o,8,1,-8 654,6,1,-8 65k,8,1,-8",
  "660,8,1,-8 66g,6,1,-8 66x,4,2,-8 67c,8,1,-8 688,8,1,-8 68o,8,1,-8 694,8,1,-8 69k,2,1,-8",
  "69m,2,1,-22 69o,1,1,-9 69q,1,1,-5j9 6a0,4,1,-2e 6a4,1,1,-9 6ag,2,1,-8 6ai,2,1,-2s 6aw,2,1,-8",
  "6ay,2,1,-34 6b0,1,1,-7 6bc,2,1,-3k 6be,2,1,-3i 6bg,1,1,-9 6jq,1,1,-5st 6ju,1,1,-6gv",
  "6jv,1,1,-6di 6k2,1,1,s 6lc,g,1,g 6mb,1,1,1 792,q,1,q 8ow,1c,1,1c 8rk,1,1,1 8rm,1,1,-8af",
  "8rn,1,1,-2xy 8ro,1,1,-89z 8rr,3,2,1 8rx,1,1,-8bg 8ry,1,1,-8al 8rz,1,1,-8bj 8s0,1,1,-8bi",
  "8s2,1,1,1 8s5,1,1,1 8se,2,1,-8cf 8sg,1e,2,1 8vf,2,2,1 8vm,1,1,1 wu8,n,2,1 ww0,e,2,1 x0i,7,2,1",
  "x0y,v,2,1 x2x,2,2,1 x31,1,1,-r9g x32,5,2,1 x3f,1,1,1 x3h,1,1,-wmg x3k,2,2,1 x3q,a,2,1",
  "x4a,1,1,-wn8 x4b,1,1,-wnj x4c,1,1,-wnf x4d,1,1,-wn5 x4e,1,1,-wn8 x4g,1,1,-wlu x4h,1,1,-wmi",
  "x4i,1,1,-wlx x4j,1,1,ps x4k,8,2,1 x50,1,1,-1c x51,1,1,-wn7 x52,1,1,-raw x53,2,2,1 x5c,1,1,1",
  "x5i,2,2,1 x6d,1,1,1 xv4,28,1,-tzk 1ee9,q,1,w 1fcw,14,1,14 1fhs,10,1,14 1fn4,b,1,13 1fng,f,1,13",
  "1fnw,7,1,13 1fo4,2,1,13 1h1c,1f,1,1s 1jfk,w,1,w 20cg,w,1,w 2olc,y,1,y"]

structure FoldingRow where
  first : Nat
  count : Nat
  step : Nat
  distance : Int
deriving Repr

def readDistance : List Char → Int
  | '-' :: s => -(number36 s : Int)
  | s => number36 s

def readFoldingRow (word : List Char) : FoldingRow :=
  match word.splitOn ',' with
  | [first, count, step, distance] =>
    ⟨number36 first, number36 count, number36 step, readDistance distance⟩
  | _ => ⟨0, 0, 1, 0⟩

def foldingRows : List FoldingRow := (words foldingTable).map readFoldingRow

def FoldingRow.covers (row : FoldingRow) (code : Nat) : Bool :=
  row.first ≤ code && (code - row.first) % row.step = 0 && (code - row.first) / row.step < row.count

/-- The code point that stands for all case variants of a code point. -/
def fold (code : Nat) : Nat :=
  match foldingRows.find? (·.covers code) with
  | some row => ((code : Int) + row.distance).toNat
  | none => code

def caseVariants (code : Nat) : List Nat :=
  let target := fold code
  target :: foldingRows.filterMap fun row =>
    let source := ((target : Int) - row.distance).toNat
    if row.covers source then some source else none

end RuleLint.Unicode
