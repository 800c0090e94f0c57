namespace PaletteSnap

inductive Cause where
  | last (message : String)
  | because (message : String) (source : Cause)
deriving DecidableEq, Repr

namespace Cause

def message : Cause → String
  | last m => m
  | because m _ => m

def source? : Cause → Option Cause
  | last _ => none
  | because _ source => some source

def chain : Cause → List Cause
  | last m => [last m]
  | because m source => because m source :: source.chain

def appendTo (text : String) : Cause → String
  | last m => text ++ ": " ++ m
  | because m source => source.appendTo (text ++ ": " ++ m)

end Cause

end PaletteSnap
