namespace StackLexer

-- Limits on what a scan may do with a hostile grammar. A grammar that stays within them never
-- notices them. `maxEmptySteps` bounds the matches of no text in a row at one place, and
-- `maxDelegationDepth` how deep scans may be nested.
structure Options where
  maxEmptySteps : Nat
  maxDelegationDepth : Nat
deriving DecidableEq, Repr

def Options.standard : Options := ⟨64, 32⟩

end StackLexer
