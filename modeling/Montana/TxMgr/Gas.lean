import Montana.Lib.Words
import Montana.TxMgr.Config

/-! The gas oracle: suggested price caps, their bumps, and the price of blob gas. -/

namespace Montana.TxMgr

open Storage (U256)
open Words (saturatingAdd saturatingMul checkedAdd checkedMul checkedDiv)

/-- The loop of `fake_exponential`, by how many more rounds it may take. Plain arithmetic
that overflows panics. -/
def fakeExponentialLoop (numerator denominator : U128) : Nat → U128 → U128 → U128 → Option U128
  | 0, _, _, _ => none
  | fuel + 1, i, output, numeratorAccum => do
    let output := saturatingAdd output numeratorAccum
    let divisor ← checkedMul denominator i
    match checkedDiv (saturatingMul numeratorAccum numerator) divisor with
    | none => some output
    | some val =>
      if val > 0 then do
        let i ← checkedAdd i 1
        if i > 100 then some output
        else fakeExponentialLoop numerator denominator fuel i output val
      else some output

def fakeExponential (factor : U128) (numerator denominator : U64) : Option U128 := do
  let denominator := denominator.setWidth 128
  let output ← fakeExponentialLoop (numerator.setWidth 128) denominator 100 1 0
    (saturatingMul factor denominator)
  checkedDiv output denominator

structure GasCaps where
  gasTipCap : U256
  gasFeeCap : U256
  blobFeeCap : Option U256
  deriving DecidableEq, Repr

namespace GasCaps

/-- `U256::from_limbs([value as u64, 0, 0, 0])`. -/
def fromLowLimb (value : U128) : U256 := (value.setWidth 64).setWidth 256

def new (maxFeePerGas maxPriorityFeePerGas : U128) (blobFeeCap : Option U128) : GasCaps where
  gasTipCap := fromLowLimb maxPriorityFeePerGas
  gasFeeCap := fromLowLimb maxFeePerGas
  blobFeeCap := blobFeeCap.map fromLowLimb

/-- `to::<u128>()`, which panics where the value does not fit. -/
def toU128 (value : U256) : Option U128 :=
  if value.toNat < 2 ^ 128 then some (value.setWidth 128) else none

def maxFeePerGas (self : GasCaps) : Option U128 := toU128 self.gasFeeCap

def maxPriorityFeePerGas (self : GasCaps) : Option U128 := toU128 self.gasTipCap

end GasCaps

/-- What is read of the header of the latest block. -/
structure Header where
  baseFeePerGas : Option U64
  excessBlobGas : Option U64
  deriving DecidableEq, Repr

structure GasOracle where
  config : TxManagerConfig
  deriving DecidableEq, Repr

def minBlobGasprice : U128 := 1
def blobGaspriceUpdateFraction : U64 := 3338477

namespace GasOracle

def calcBlobFee (excessBlobGas : U64) : Option U128 :=
  fakeExponential minBlobGasprice excessBlobGas blobGaspriceUpdateFraction

/-- The answer of the provider for the latest block; no value where the price of blob gas panics. -/
def suggestGasCaps (self : GasOracle) (latest : Except String (Option Header)) :
    Option (Except TxError GasCaps) :=
  match latest with
  | .error e => some (.error (.gasEstimation s!"Failed to fetch latest block: {e}"))
  | .ok none => some (.error (.gasEstimation "Latest block not found"))
  | .ok (some header) =>
    match header.baseFeePerGas with
    | none => some (.error (.gasEstimation "Base fee not available"))
    | some baseFee =>
      let gasTipCap := self.config.minTipCapWei.setWidth 256
      let gasFeeCap := baseFee.setWidth 256 + gasTipCap
      match header.excessBlobGas with
      | none => some (.ok { gasTipCap, gasFeeCap, blobFeeCap := none })
      | some excessBlobGas =>
        (calcBlobFee excessBlobGas).map fun blobFee =>
          .ok { gasTipCap, gasFeeCap, blobFeeCap := some (blobFee.setWidth 256) }

def bumpPercent (self : GasOracle) (isBlob : Bool) : U64 :=
  if isBlob then self.config.blobPriceBumpPercent else self.config.priceBumpPercent

/-- One cap of `bump_gas_caps`; the product wraps. -/
def bumpCap (multiplier cap : U256) : U256 := cap * multiplier / 100

/-- The sum `100 + bump_percent` is one of `u64`, which panics on overflow. -/
def bumpGasCaps (self : GasOracle) (caps : GasCaps) (isBlob : Bool) : Option GasCaps := do
  let sum ← checkedAdd 100 (self.bumpPercent isBlob)
  let multiplier := sum.setWidth 256
  return {
    gasTipCap := bumpCap multiplier caps.gasTipCap
    gasFeeCap := bumpCap multiplier caps.gasFeeCap
    blobFeeCap := caps.blobFeeCap.map (bumpCap multiplier) }

end GasOracle

end Montana.TxMgr
