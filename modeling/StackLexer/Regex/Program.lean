import StackLexer.Regex.Expr

namespace StackLexer.Regex

-- An instruction passes control to the one behind it unless it says otherwise; a split prefers its
-- first target.
inductive Inst where
  | char (c : Char)
  | set (chars : CharSet)
  | look (look : Look)
  | opens (group : Nat)
  | closes (group : Nat)
  | split (first second : Nat)
  | jump (target : Nat)
  | accept
deriving DecidableEq, Repr

namespace Inst

-- A split that goes to the body first if it is greedy.
def branch (greedy : Bool) (body exit : Nat) : Inst :=
  if greedy then .split body exit else .split exit body

end Inst

namespace Expr

-- The body always takes up some text, so it can be looped directly. Any other body must not be
-- looped as it stands, since threads that come back to an instruction at the same place are
-- dropped: `x*` is then compiled as `(?:x+)?`.
def isProductive (body : Expr) : Bool := body.minSize?.any (0 < ·)

mutual

-- The number of instructions, told without making them.
def size : Expr → Nat
  | .empty => 0
  | .literal text => text.length
  | .set _ => 1
  | .look _ => 1
  | .repeated min max _ body =>
      match min, max with
      | 0, none => body.size + 2
      | min + 1, none => (min + 1) * body.size + 1
      | min, some max => min * body.size + (max - min) * (body.size + 1)
  | .group _ body => body.size + 2
  | .concat parts => sizeSum parts
  | .alternation branches => sizeBranches branches

def sizeSum : List Expr → Nat
  | [] => 0
  | part :: rest => part.size + sizeSum rest

def sizeBranches : List Expr → Nat
  | [] => 0
  | [branch] => branch.size
  | branch :: rest => branch.size + 2 + sizeBranches rest

end

mutual

-- The instructions of an expression that starts at the address `here`.
def insts (here : Nat) : Expr → List Inst
  | .empty => []
  | .literal text => text.map .char
  | .set chars => [.set chars]
  | .look assertion => [.look assertion]
  | .repeated min max greedy body =>
      let width := body.size
      match min, max with
      | 0, none =>
          let exit := here + width + 2
          let code := body.insts (here + 1)
          if body.isProductive then
            Inst.branch greedy (here + 1) exit :: code ++ [.jump here]
          else
            Inst.branch greedy (here + 1) exit :: code ++ [Inst.branch greedy (here + 1) exit]
      | min + 1, none =>
          let last := here + min * width
          (List.range (min + 1)).flatMap (fun k => body.insts (here + k * width)) ++
            [Inst.branch greedy last (last + width + 1)]
      | min, some max =>
          let options := here + min * width
          let exit := options + (max - min) * (width + 1)
          (List.range min).flatMap (fun k => body.insts (here + k * width)) ++
            (List.range (max - min)).flatMap fun k =>
              let option := options + k * (width + 1)
              Inst.branch greedy (option + 1) exit :: body.insts (option + 1)
  | .group index body => .opens index :: body.insts (here + 1) ++ [.closes index]
  | .concat parts => instsAll here parts
  | .alternation branches => instsBranches here (here + sizeBranches branches) branches

def instsAll (here : Nat) : List Expr → List Inst
  | [] => []
  | part :: rest => part.insts here ++ instsAll (here + part.size) rest

-- Every branch but the last has a split in front and a jump to `exit` behind it.
def instsBranches (here exit : Nat) : List Expr → List Inst
  | [] => []
  | [branch] => branch.insts here
  | branch :: rest =>
      let next := here + branch.size + 2
      .split (here + 1) next :: branch.insts (here + 1) ++ .jump exit ::
        instsBranches next exit rest

end

end Expr

structure Program where
  code : Array Inst
deriving Repr

namespace Program

def ofExpr (expr : Expr) : Program := ⟨(expr.insts 0 ++ [Inst.accept]).toArray⟩

end Program

end StackLexer.Regex
