import TickArena.Catalog.Loading

/-!
# The standard catalog

Seventeen components: eight cores, two artifacts, five modifiers and two chains.
The numbers are balancing data; only the abilities say what they do with them.
-/

namespace TickArena

namespace Standard

/-! ### Cores -/

def vanguardCore : Component :=
  { id := "vanguard_core"
    label := "Vanguard Core"
    description := "Leads the sequence. Strikes hardest from the front."
    type := .core
    rarity := .common
    baseStats := .ofList [("base_damage", 100), ("first_position_bonus", 1.5)]
    tags := .ofList [.kinetic, .light]
    requirements := [.position .first]
    ability := .strike .vanguard }

def emberCore : Component :=
  { id := "ember_core"
    label := "Ember Core"
    description := "Burns steadily; feeds on chain resonance."
    type := .core
    rarity := .common
    baseStats := .ofList [("base_damage", 80), ("burn_power", 10)]
    tags := .ofList [.fire, .primal]
    requirements := []
    ability := .strike .ember }

def frostCore : Component :=
  { id := "frost_core"
    label := "Frost Core"
    description := "Needs water beside it. Slows the target."
    type := .core
    rarity := .uncommon
    baseStats := .ofList [("base_damage", 70), ("water_bonus", 0.25), ("slow_power", 0.3)]
    tags := .ofList [.water, .temporal]
    requirements := [.adjacentTag .water .either]
    ability := .strike .frost }

def stormCore : Component :=
  { id := "storm_core"
    label := "Storm Core"
    description := "Volatile. Crits hard when a modifier is present."
    type := .core
    rarity := .rare
    baseStats := .ofList
      [("base_damage", 90), ("crit_chance", 0.25),
        ("crit_multiplier", 2), ("shock_power", 5)]
    tags := .ofList [.lightning, .air]
    requirements := [.globalPresence (.ofType .modifier)]
    ability := .strike .storm }

def echoCore : Component :=
  { id := "echo_core"
    label := "Echo Core"
    description := "Repeats part of the last core that fired before it."
    type := .core
    rarity := .rare
    baseStats := .ofList [("echo_ratio", 0.5)]
    tags := .ofList [.resonant, .arcane]
    requirements := [.sequenceCount (.ofType .core) 2]
    ability := .strike .echo }

def prismCore : Component :=
  { id := "prism_core"
    label := "Prism Core"
    description := "Scales with the variety of tags in the sequence."
    type := .core
    rarity := .epic
    baseStats := .ofList [("base_damage", 40), ("diversity_scaling", 0.2)]
    tags := .ofList [.light, .arcane]
    requirements := [.tagDiversity 4]
    ability := .strike .prism }

def genesisCore : Component :=
  { id := "genesis_core"
    label := "Genesis Core"
    description := "Charges with evolution and with the artifacts around it."
    type := .core
    rarity := .mythical
    baseStats := .ofList [("base_damage", 200), ("charge_per_level", 0.5)]
    tags := .ofList [.primal, .ancient, .temporal]
    requirements := [.evolutionStage 2]
    ability := .strike .genesis }

def kindlingCore : Component :=
  { id := "kindling_core"
    label := "Kindling Core"
    description := "Small fire that stokes whatever comes after it."
    type := .core
    rarity := .common
    baseStats := .ofList [("base_damage", 50), ("kindle_amount", 20), ("burn_power", 4)]
    tags := .ofList [.fire, .kinetic]
    requirements := [.position .any]
    ability := .strike .kindling }

/-! ### Artifacts -/

def ancientRelic : Component :=
  { id := "ancient_relic"
    label := "Ancient Relic"
    description := "Grows stronger for every core it watches over."
    type := .artifact
    rarity := .legendary
    baseStats := .ofList [("base_damage", 120), ("per_core_bonus", 0.2)]
    tags := .ofList [.ancient, .earth]
    requirements := [.globalPresence (.ofType .core)]
    ability := .strike .relic }

def voidShard : Component :=
  { id := "void_shard"
    label := "Void Shard"
    description := "Closes the sequence with a weakening blow."
    type := .artifact
    rarity := .epic
    baseStats := .ofList [("base_damage", 150), ("weaken_power", 0.2)]
    tags := .ofList [.void, .shadow]
    requirements := [.position .last]
    ability := .strike .voidShard }

/-! ### Modifiers -/

def amplifier : Component :=
  { id := "amplifier"
    label := "Amplifier"
    description := "Multiplies the damage of adjacent cores and artifacts."
    type := .modifier
    rarity := .common
    baseStats := .ofList [("amplify", 1.3)]
    tags := .ofList [.mechanical, .resonant]
    requirements := []
    ability := .weave .amplify }

def catalyst : Component :=
  { id := "catalyst"
    label := "Catalyst"
    description := "Adds flat damage to the core right after it."
    type := .modifier
    rarity := .uncommon
    baseStats := .ofList [("catalyst_damage", 25)]
    tags := .ofList [.arcane, .fire]
    requirements := [.adjacentType .core .next]
    ability := .weave .catalyze }

def resonator : Component :=
  { id := "resonator"
    label := "Resonator"
    description := "Boosts effect power of everything sharing a tag with it."
    type := .modifier
    rarity := .rare
    baseStats := .ofList [("effect_power", 1.5)]
    tags := .ofList [.resonant, .water]
    requirements := [.sequenceCount (.ofTag .resonant) 2]
    ability := .weave .resonate }

def overclock : Component :=
  { id := "overclock"
    label := "Overclock"
    description := "Raises crit chance of every core, if nothing is doubled up."
    type := .modifier
    rarity := .epic
    baseStats := .ofList [("crit_bonus", 0.15)]
    tags := .ofList [.mechanical, .lightning]
    requirements := [.custom "all_unique"]
    ability := .weave .overclock }

def genesisSeed : Component :=
  { id := "genesis_seed"
    label := "Genesis Seed"
    description := "Feeds charge into every core when a Genesis Core is present."
    type := .modifier
    rarity := .mythical
    baseStats := .ofList [("seed_charge", 1)]
    tags := .ofList [.primal, .temporal]
    requirements := [.globalPresence (.ofId "genesis_core")]
    ability := .weave .seed }

/-! ### Chains -/

def chainLink : Component :=
  { id := "chain_link"
    label := "Chain Link"
    description := "Binds two cores together, resonating both."
    type := .chain
    rarity := .common
    baseStats := .ofList [("link_bonus", 1.25)]
    tags := .ofList [.mechanical, .kinetic]
    requirements := [.sandwich (.ofType .core) (.ofType .core)]
    ability := .weave .chainLink }

def conduit : Component :=
  { id := "conduit"
    label := "Conduit"
    description := "From the middle of the sequence, lifts every damage dealer a little."
    type := .chain
    rarity := .uncommon
    baseStats := .ofList [("conduit_bonus", 1.1)]
    tags := .ofList [.lightning, .mechanical]
    requirements := [.position .middle]
    ability := .weave .conduit }

def components : List Component :=
  [vanguardCore, emberCore, frostCore, stormCore, echoCore, prismCore, genesisCore,
    kindlingCore, ancientRelic, voidShard, amplifier, catalyst, resonator, overclock,
    genesisSeed, chainLink, conduit]

end Standard

namespace Catalog

/-- Registers the standard components on top of a catalog. -/
def withStandard (catalog : Catalog) : Catalog × Except SchemaError Unit :=
  catalog.registerAll Standard.components

def standard : Catalog :=
  (withStandard ∅).1

end Catalog

end TickArena
