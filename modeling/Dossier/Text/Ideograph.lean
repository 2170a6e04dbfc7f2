import Dossier.Text.CharSet

/-! Ideographs, what they are made of, and the operators that describe them. -/

namespace Dossier.Ideograph

def all : CharSet := .ofText [
  "3006-3007 3021-3029 3038-303a 3400-4dbf 4e00-9fff f900-fa6d fa70-fad9 16fe4 17000-187f7",
  "18800-18cd5 18cff-18d08 1b170-1b2fb 20000-2a6df 2a700-2b739 2b740-2b81d 2b820-2cea1",
  "2ceb0-2ebe0 2ebf0-2ee5d 2f800-2fa1d 30000-3134a 31350-323af"]

/-- The ideographs that several scripts share. -/
def unified : CharSet := .ofText [
  "3400-4dbf 4e00-9fff fa0e-fa0f fa11 fa13-fa14 fa1f fa21 fa23-fa24 fa27-fa29 20000-2a6df",
  "2a700-2b739 2b740-2b81d 2b820-2cea1 2ceb0-2ebe0 2ebf0-2ee5d 30000-3134a 31350-323af"]

def radical : CharSet := .ofText ["2e80-2e99 2e9b-2ef3 2f00-2fd5"]

def unaryOperator : CharSet := .ofText ["2ffe-2fff"]

def binaryOperator : CharSet := .ofText ["2ff0-2ff1 2ff4-2ffd 31ef"]

def ternaryOperator : CharSet := .ofText ["2ff2-2ff3"]

end Dossier.Ideograph
