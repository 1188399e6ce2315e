import RouterAdvert.Log.Line
import RouterAdvert.PrefixInformation
import RouterAdvert.RouterFlags

/-!
# Configurations

What an operator writes down for a router: how to log, the router parameters and the prefixes to
advertise. Link addresses and prefixes are texts here, which later steps read.
-/

namespace RouterAdvert

structure LogConfig where
  level : String := "info"
  format : Log.Format := .pretty
deriving DecidableEq, Inhabited

structure RouterConfig where
  interface : Option Int32 := none
  linkAddress : Option String := none
  mtu : Option UInt32 := none
  hopLimit : UInt8 := 64
  lifetime : UInt32 := 1800
  managed : Bool := false
  other : Bool := false
  preference : Preference := .medium
deriving DecidableEq

structure PrefixConfig where
  network : String
  onLink : Bool := true
  autonomous : Bool := true
  preferredLifetime : UInt32 := PrefixInformation.defaultPreferred
  validLifetime : UInt32 := PrefixInformation.defaultValid
deriving DecidableEq

structure Config where
  log : Option LogConfig := none
  router : RouterConfig := {}
  prefixes : List PrefixConfig := []
deriving DecidableEq

end RouterAdvert
