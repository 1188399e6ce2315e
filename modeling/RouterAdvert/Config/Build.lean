import RouterAdvert.Config.Basic
import RouterAdvert.World.Step

/-!
# Building a session from a configuration

A configuration is a plan: a list of operations on an empty world, each of which checks its own
values, so that a configuration that was not validated cannot lead to an inconsistent session
either.
-/

namespace RouterAdvert

namespace Config

def sessionName : String := "session"

def entryName : String := "entry"

/-- The operations that set the router parameters. The preference comes before the lifetime, which
is checked against it. -/
def routerPlan (r : RouterConfig) : List Op :=
  (r.interface.map fun index => Op.set sessionName (.interface index)).toList
    ++ (r.linkAddress.map fun text => Op.setLinkAddressText sessionName text).toList
    ++ (r.mtu.map fun size => Op.set sessionName (.mtu size)).toList
    ++ [.set sessionName (.hopLimit r.hopLimit),
      .set sessionName (.managed r.managed),
      .set sessionName (.other r.other),
      .prefer sessionName r.preference,
      .set sessionName (.lifetime r.lifetime)]

def prefixPlan (entry : PrefixConfig) : List Op :=
  [.newPrefix entryName,
    .setNetworkText entryName entry.network,
    .edit entryName (.onLink entry.onLink),
    .edit entryName (.autonomous entry.autonomous),
    .edit entryName (.preferredLifetime entry.preferredLifetime),
    .edit entryName (.validLifetime entry.validLifetime),
    .addPrefix sessionName entryName,
    .dropPrefix entryName]

def plan (c : Config) : List Op :=
  .newSession sessionName (some .threadDefault) :: routerPlan c.router
    ++ c.prefixes.flatMap prefixPlan

def namedSession? (w : World) (name : String) : Option Session :=
  (w.sessionHandles.get? name).bind w.session?

/-- Builds the session of a configuration, idle and without an event loop. If a setting is refused,
the session is given up again. -/
def build (c : Config) : World.Result :=
  let planned := World.attempt {} c.plan
  match planned.result with
  | .ok () =>
    match namedSession? planned.state sessionName with
    | none => planned
    | some s =>
      { planned with
        log := planned.log ++ [⟨.command, .built s.router.interface s.members.length⟩] }
  | .error _ =>
    let given := planned.state.step (.dropSession sessionName)
    { planned with state := given.world, log := planned.log ++ given.log }

end Config

end RouterAdvert
