/-! Chain specifications: which rules the EVM follows at a timestamp. -/

namespace Montana

/-- The hardforks of the Base stack in chronological order. -/
inductive Hardfork where
  | bedrock | canyon | delta | ecotone | fjord | granite | holocene | isthmus | jovian
  deriving DecidableEq, Repr

inductive OpSpecId where
  | bedrock | canyon | ecotone | fjord | granite | holocene | isthmus | jovian
  deriving DecidableEq, Repr

def Hardfork.toSpecId : Hardfork → OpSpecId
  | .bedrock => .bedrock
  | .canyon => .canyon
  | .delta => .canyon
  | .ecotone => .ecotone
  | .fjord => .fjord
  | .granite => .granite
  | .holocene => .holocene
  | .isthmus => .isthmus
  | .jovian => .jovian

structure Hardforks where
  canyon : Nat
  delta : Nat
  ecotone : Nat
  fjord : Nat
  granite : Nat
  holocene : Nat
  isthmus : Nat
  jovian : Nat
  deriving DecidableEq, Repr

def Hardforks.activationTime (self : Hardforks) : Hardfork → Nat
  | .bedrock => 0
  | .canyon => self.canyon
  | .delta => self.delta
  | .ecotone => self.ecotone
  | .fjord => self.fjord
  | .granite => self.granite
  | .holocene => self.holocene
  | .isthmus => self.isthmus
  | .jovian => self.jovian

def Hardforks.isActive (self : Hardforks) (hardfork : Hardfork) (timestamp : Nat) : Bool :=
  self.activationTime hardfork ≤ timestamp

structure Chain where
  chainId : Nat
  hardforks : Hardforks
  deriving DecidableEq, Repr

namespace Chain

def isActive (self : Chain) (hardfork : Hardfork) (timestamp : Nat) : Bool :=
  self.hardforks.isActive hardfork timestamp

/-- The highest active hardfork. -/
def activeHardfork (self : Chain) (timestamp : Nat) : Hardfork :=
  if self.isActive .jovian timestamp then .jovian
  else if self.isActive .isthmus timestamp then .isthmus
  else if self.isActive .holocene timestamp then .holocene
  else if self.isActive .granite timestamp then .granite
  else if self.isActive .fjord timestamp then .fjord
  else if self.isActive .ecotone timestamp then .ecotone
  else if self.isActive .delta timestamp then .delta
  else if self.isActive .canyon timestamp then .canyon
  else .bedrock

def specIdAtTimestamp (self : Chain) (timestamp : Nat) : OpSpecId :=
  (self.activeHardfork timestamp).toSpecId

end Chain

def baseMainnet : Chain where
  chainId := 8453
  hardforks := {
    canyon := 1704992401
    delta := 1708560000
    ecotone := 1710374401
    fjord := 1720627201
    granite := 1726070401
    holocene := 1736445601
    isthmus := 1746806401
    jovian := 1764777601 }

end Montana
