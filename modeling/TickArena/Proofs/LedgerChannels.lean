import TickArena.Catalog.Standard
import TickArena.Proofs.Silhouettes

/-!
# What abilities read in the ledger

The ledger holds the bonuses of a whole sequence, in the order in which they were written.  An
ability reads it through a few channels: the bonuses for its own position, of one kind and joined
by one operation.  Which channels there are for a component is settled by its type and ability;
whatever else stands in the ledger, before, after or between, makes no difference.
-/

namespace TickArena

/-- Bonuses of one kind, joined by one operation. -/
inductive Channel where
  | damageFactor
  | damageTerm
  | effectPower
  | critChance
  | chainResonance
  | genesisCharge

namespace Channel

def kind : Channel → BonusKind
  | damageFactor => .damageMultiplier
  | damageTerm => .damageAdditive
  | effectPower => .effectPowerMultiplier
  | critChance => .critChance
  | chainResonance => .chainResonance
  | genesisCharge => TickArena.genesisCharge

def op : Channel → BonusOp
  | damageFactor | effectPower | chainResonance => .mul
  | damageTerm | critChance | genesisCharge => .add

/-- The ability of the component may read the channel.  None reaches a weave. -/
def Reaches (component : Component) : Channel → Prop
  | damageFactor | effectPower => ∃ behavior, component.ability = .strike behavior
  | damageTerm => ∃ behavior, component.ability = .strike behavior ∧ behavior ≠ .echo
  | critChance =>
    component.type = .core ∧ ∃ behavior, component.ability = .strike behavior ∧ behavior ≠ .echo
  | chainResonance => component.ability = .strike .ember
  | genesisCharge => component.ability = .strike .genesis

end Channel

namespace Ledger

/-- The bonuses for a position on a channel, in the order in which they were written. -/
def on (ledger : Ledger) (position : Nat) (channel : Channel) : List Bonus :=
  ledger.bonuses.filter fun bonus =>
    bonus.target = position && bonus.kind = channel.kind && bonus.op = channel.op

/-- The ledgers hold the same bonuses for a position on some channels. -/
def Agree (ledger other : Ledger) (position : Nat) (channels : Channel → Prop) : Prop :=
  ∀ channel, channels channel → ledger.on position channel = other.on position channel

variable {ledger other : Ledger} {position : Nat} {channel : Channel}

theorem values_eq_of_on (h : ledger.on position channel = other.on position channel) :
    ledger.values position channel.kind channel.op =
      other.values position channel.kind channel.op :=
  congrArg (List.map Bonus.value) h

theorem multiplier_eq_of_on (h : ledger.on position channel = other.on position channel)
    (hop : channel.op = .mul) :
    ledger.multiplier position channel.kind = other.multiplier position channel.kind := by
  have hvalues := values_eq_of_on h
  rw [hop] at hvalues
  rw [multiplier, multiplier, hvalues]

theorem additive_eq_of_on (h : ledger.on position channel = other.on position channel)
    (hop : channel.op = .add) :
    ledger.additive position channel.kind = other.additive position channel.kind := by
  have hvalues := values_eq_of_on h
  rw [hop] at hvalues
  rw [additive, additive, hvalues]

end Ledger

/-! ## Outcomes without their effects -/

def StrikeOutcome.quiet (outcome : StrikeOutcome) : StrikeOutcome :=
  { outcome with effects := [] }

/-- What a strike or a weave does, its effects apart. -/
def Outcome.quiet : Outcome → Outcome
  | strike outcome => .strike outcome.quiet
  | weave outcome => .weave outcome

def Outcome.effects : Outcome → List Effect
  | strike outcome => outcome.effects
  | weave _ => []

theorem Outcome.eq_of_quiet {outcome other : Outcome} (hquiet : outcome.quiet = other.quiet)
    (heffects : outcome.effects = other.effects) : outcome = other := by
  cases outcome with
  | weave outcome =>
    cases other with
    | weave other => exact hquiet
    | strike other => contradiction
  | strike outcome =>
    cases other with
    | weave other => contradiction
    | strike other =>
      obtain ⟨damage, damageType, critical, effects, telemetry, emitted⟩ := outcome
      obtain ⟨damage', damageType', critical', effects', telemetry', emitted'⟩ := other
      simp_all [quiet, StrikeOutcome.quiet, Outcome.effects]

namespace Stance

@[simp]
theorem effects_strike (stance : Stance) (behavior : StrikeBehavior) (draw : Float) :
    (stance.strike behavior draw).effects = (stance.swing behavior).effects := by
  unfold strike critical
  dsimp only
  split
  · split_ifs <;> rfl
  · rfl

/-! ## Two ledgers -/

variable {component : Component} {placement : Placement} {context other : Context}
  {behavior : StrikeBehavior}

section Heard

variable (hentries : context.entries = other.entries) (hstrikes : context.strikes = other.strikes)
  (hability : component.ability = .strike behavior)

/-- The chance of a critical hit is read by cores alone, and not for an echo. -/
theorem critChance?_eq_of_agree
    (heard : component.type = .core → behavior ≠ .echo →
      context.ledger.on placement.position .critChance =
        other.ledger.on placement.position .critChance) :
    (Stance.mk component placement context).critChance? behavior =
      (Stance.mk component placement other).critChance? behavior := by
  unfold critChance?
  by_cases hstrikes : component.type = .core ∧ behavior ≠ .echo
  · have hchance : context.ledger.additive placement.position .critChance =
        other.ledger.additive placement.position .critChance :=
      Ledger.additive_eq_of_on (heard hstrikes.1 hstrikes.2) rfl
    rw [if_pos hstrikes, if_pos hstrikes]
    simp only [incoming, Incoming.ofLedger, position, hchance]
    rfl
  · rw [if_neg hstrikes, if_neg hstrikes]

include hentries hstrikes hability

theorem quiet_swing_eq_of_agree
    (heard : context.ledger.Agree other.ledger placement.position
      fun channel => channel.Reaches component ∧ channel ≠ .effectPower) :
    ((Stance.mk component placement context).swing behavior).quiet =
      ((Stance.mk component placement other).swing behavior).quiet := by
  have hfactor : context.ledger.multiplier placement.position .damageMultiplier =
      other.ledger.multiplier placement.position .damageMultiplier :=
    Ledger.multiplier_eq_of_on (heard .damageFactor ⟨⟨behavior, hability⟩, by simp⟩) rfl
  have hlast := Context.lastStrikeBefore?_congr hstrikes
  obtain ⟨entries, slotPositions, ledger, strikes, diagnostics⟩ := context
  obtain ⟨_, slotPositions', ledger', _, diagnostics'⟩ := other
  obtain rfl : entries = _ := hentries
  -- Unfolded, both sides name the same numbers, and the rest of the scene is the same.
  rcases eq_or_ne behavior .echo with rfl | hstrike
  · simp only [swing, echo, incoming, Incoming.ofLedger, position, rarity, stat, hfactor, hlast]
  have hterm : ledger.additive placement.position .damageAdditive =
      ledger'.additive placement.position .damageAdditive :=
    Ledger.additive_eq_of_on (heard .damageTerm ⟨⟨behavior, hability, hstrike⟩, by simp⟩) rfl
  cases behavior with
  | echo => contradiction
  | vanguard =>
    simp only [swing, vanguard, incoming, Incoming.ofLedger, position, base, rarity, stat,
      hfactor, hterm]
    rfl
  | ember =>
    have hresonance : ledger.multiplier placement.position .chainResonance =
        ledger'.multiplier placement.position .chainResonance :=
      Ledger.multiplier_eq_of_on (heard .chainResonance ⟨hability, by simp⟩) rfl
    simp only [swing, ember, StrikeOutcome.quiet, incoming, Incoming.ofLedger, position, base,
      rarity, stat, hfactor, hterm, hresonance]
  | frost =>
    simp only [swing, frost, StrikeOutcome.quiet, incoming, Incoming.ofLedger, position, base,
      rarity, stat, hfactor, hterm]
    rfl
  | storm =>
    simp only [swing, storm, StrikeOutcome.quiet, incoming, Incoming.ofLedger, position, base,
      rarity, stat, hfactor, hterm]
  | prism =>
    simp only [swing, prism, incoming, Incoming.ofLedger, position, base, rarity, stat, hfactor,
      hterm]
    rfl
  | genesis =>
    have hseeded : ledger.additive placement.position genesisCharge =
        ledger'.additive placement.position genesisCharge :=
      Ledger.additive_eq_of_on (heard .genesisCharge ⟨hability, by simp⟩) rfl
    simp only [swing, genesis, StrikeOutcome.quiet, incoming, Incoming.ofLedger, position, base,
      rarity, stat, hfactor, hterm, hseeded]
    rfl
  | kindling =>
    simp only [swing, kindling, StrikeOutcome.quiet, incoming, Incoming.ofLedger, position, base,
      rarity, stat, hfactor, hterm]
    rfl
  | relic =>
    simp only [swing, relic, incoming, Incoming.ofLedger, position, base, rarity, stat, hfactor,
      hterm]
    rfl
  | voidShard =>
    simp only [swing, voidShard, StrikeOutcome.quiet, incoming, Incoming.ofLedger, position, base,
      rarity, stat, hfactor, hterm]

omit hstrikes in
theorem effects_swing_eq_of_agree
    (heard : context.ledger.Agree other.ledger placement.position fun channel =>
      channel.Reaches component) :
    ((Stance.mk component placement context).swing behavior).effects =
      ((Stance.mk component placement other).swing behavior).effects := by
  have hpower : context.ledger.multiplier placement.position .effectPowerMultiplier =
      other.ledger.multiplier placement.position .effectPowerMultiplier :=
    Ledger.multiplier_eq_of_on (heard .effectPower ⟨behavior, hability⟩) rfl
  have heffect : ∀ kind stat duration,
      (Stance.mk component placement context).effect kind stat duration =
        (Stance.mk component placement other).effect kind stat duration := by
    intro kind stat duration
    simp only [effect, Stance.stat, incoming, Incoming.ofLedger, position, hpower]
  cases behavior with
  | ember => simp only [swing, ember, heffect]
  | frost => simp only [swing, frost, heffect]
  | storm => simp only [swing, storm, heffect]
  | kindling => simp only [swing, kindling, heffect]
  | voidShard => simp only [swing, voidShard, heffect]
  | genesis =>
    have hseeded : context.ledger.additive placement.position genesisCharge =
        other.ledger.additive placement.position genesisCharge :=
      Ledger.additive_eq_of_on (heard .genesisCharge hability) rfl
    simp only [swing, genesis, incoming, Incoming.ofLedger, position, stat, hpower, hseeded,
      Context.countOfType, hentries]
  | vanguard => simp only [swing, vanguard, bare]
  | echo => simp only [swing, echo, bare]
  | prism => simp only [swing, prism, bare]
  | relic => simp only [swing, relic, bare]

end Heard

/-- A critical hit does not look at the effects. -/
theorem quiet_strike_eq (draw : Float)
    (hswing : ((Stance.mk component placement context).swing behavior).quiet =
      ((Stance.mk component placement other).swing behavior).quiet)
    (hchance : (Stance.mk component placement context).critChance? behavior =
      (Stance.mk component placement other).critChance? behavior) :
    ((Stance.mk component placement context).strike behavior draw).quiet =
      ((Stance.mk component placement other).strike behavior draw).quiet := by
  unfold strike
  rw [hchance]
  generalize (Stance.mk component placement context).swing behavior = outcome at hswing ⊢
  generalize (Stance.mk component placement other).swing behavior = outcome' at hswing ⊢
  obtain ⟨damage, damageType, crit, effects, telemetry, emitted⟩ := outcome
  obtain ⟨damage', damageType', crit', effects', telemetry', emitted'⟩ := outcome'
  simp only [StrikeOutcome.quiet, StrikeOutcome.mk.injEq, true_and] at hswing
  obtain ⟨rfl, rfl, rfl, rfl, rfl⟩ := hswing
  cases (Stance.mk component placement other).critChance? behavior with
  | none => rfl
  | some chance =>
    unfold critical
    dsimp only
    split_ifs <;> rfl

section Act

variable (hentries : context.entries = other.entries) (hstrikes : context.strikes = other.strikes)
  (heard : context.ledger.Agree other.ledger placement.position
    fun channel => channel.Reaches component ∧ channel ≠ .effectPower)

include heard

theorem critChance?_eq_of_heard (hability : component.ability = .strike behavior) :
    (Stance.mk component placement context).critChance? behavior =
      (Stance.mk component placement other).critChance? behavior :=
  critChance?_eq_of_agree fun hcore hstrike =>
    heard .critChance ⟨⟨hcore, behavior, hability, hstrike⟩, by simp⟩

theorem draws_eq_of_heard :
    (Stance.mk component placement context).draws =
      (Stance.mk component placement other).draws := by
  unfold draws
  cases hability : component.ability with
  | strike behavior => exact congrArg Option.isSome (critChance?_eq_of_heard heard hability)
  | weave behavior => rfl

include hentries hstrikes

theorem quiet_act_eq_of_heard (draw : Float) :
    ((Stance.mk component placement context).act draw).quiet =
      ((Stance.mk component placement other).act draw).quiet := by
  unfold act
  cases hability : component.ability with
  | strike behavior =>
    exact congrArg Outcome.strike (quiet_strike_eq draw
      (quiet_swing_eq_of_agree hentries hstrikes hability heard)
      (critChance?_eq_of_heard heard hability))
  | weave behavior =>
    have hresemble : Resemble context.entries other.entries := congrArg _ hentries
    dsimp only [weave]
    rw [bonuses_eq_of_resemble hresemble]
    rfl

end Act

theorem effects_act_eq_of_agree (hentries : context.entries = other.entries)
    (heard : context.ledger.Agree other.ledger placement.position fun channel =>
      channel.Reaches component) (draw : Float) :
    ((Stance.mk component placement context).act draw).effects =
      ((Stance.mk component placement other).act draw).effects := by
  unfold act
  cases hability : component.ability with
  | strike behavior =>
    dsimp only [Outcome.effects]
    rw [effects_strike, effects_strike]
    exact effects_swing_eq_of_agree hentries hability heard
  | weave behavior => rfl

/-- An ability reads the bonuses for its own position on the channels that reach its component, and
nothing else that stands in the ledger.  Of these channels, that of the effect power shows in the
effects alone. -/
theorem act_local (hentries : context.entries = other.entries)
    (hstrikes : context.strikes = other.strikes) :
    let here : Stance := ⟨component, placement, context⟩
    let there : Stance := ⟨component, placement, other⟩
    let agree := context.ledger.Agree other.ledger placement.position
    (agree (fun channel => channel.Reaches component) →
      here.draws = there.draws ∧ ∀ draw, here.act draw = there.act draw) ∧
    (agree (fun channel => channel.Reaches component ∧ channel ≠ .effectPower) →
      here.draws = there.draws ∧ ∀ draw, (here.act draw).quiet = (there.act draw).quiet) := by
  intro here there agree
  have hquiet : agree (fun channel => channel.Reaches component ∧ channel ≠ .effectPower) →
      here.draws = there.draws ∧ ∀ draw, (here.act draw).quiet = (there.act draw).quiet :=
    fun heard => ⟨draws_eq_of_heard heard, quiet_act_eq_of_heard hentries hstrikes heard⟩
  refine ⟨fun heard => ?_, hquiet⟩
  obtain ⟨hdraws, hacts⟩ := hquiet fun channel hchannel => heard channel hchannel.1
  exact ⟨hdraws, fun draw => Outcome.eq_of_quiet (hacts draw)
    (effects_act_eq_of_agree hentries heard draw)⟩

/-- An ember core reads a factor and a resonance, in whatever else the ledger holds; a bonus for its
effect power makes the burn stronger and changes nothing else. -/
theorem ember_act_local :
    let ember : Entry := ⟨⟨"ember_core", 1, 1, .common, 0⟩, Standard.emberCore⟩
    let scene : List Bonus → Context := fun bonuses =>
      ⟨[ember], [none, some 1], ⟨bonuses⟩, ∅, []⟩
    let act : List Bonus → Float → Outcome := fun bonuses =>
      (Stance.mk ember.component ember.placement (scene bonuses)).act
    let factor : Bonus := ⟨2, 1, .damageMultiplier, .mul, 1.5⟩
    let resonance : Bonus := ⟨3, 1, .chainResonance, .mul, 2⟩
    let power : Bonus := ⟨2, 1, .effectPowerMultiplier, .mul, 2⟩
    let noise : List Bonus := [⟨3, 2, .damageMultiplier, .mul, 9⟩,
      ⟨3, 1, .damageMultiplier, .add, 7⟩, ⟨2, 1, genesisCharge, .add, 4⟩]
    let quiet := [factor, resonance]
    let loud := noise ++ factor :: noise ++ resonance :: noise
    let bright := [factor, power, resonance]
    (∀ draw, act quiet draw = act loud draw) ∧
      (∀ draw, (act quiet draw).quiet = (act bright draw).quiet) ∧
      (act quiet 0).damage = 240 ∧ (act quiet 0).effects.map Effect.power = [10] ∧
      (act bright 0).effects.map Effect.power = [20] := by
  intro ember scene act factor resonance power noise quiet loud bright
  have hloud : (scene quiet).ledger.Agree (scene loud).ledger 1
      fun channel => channel.Reaches ember.component := by
    intro channel hreaches
    cases channel with
    | genesisCharge => cases (show Ability.strike .ember = .strike .genesis from hreaches)
    | damageFactor => rfl
    | damageTerm => rfl
    | effectPower => rfl
    | critChance => rfl
    | chainResonance => rfl
  have hbright : (scene quiet).ledger.Agree (scene bright).ledger 1
      fun channel => channel.Reaches ember.component ∧ channel ≠ .effectPower := by
    rintro channel ⟨-, hpower⟩
    cases channel with
    | effectPower => contradiction
    | damageFactor => rfl
    | damageTerm => rfl
    | critChance => rfl
    | chainResonance => rfl
    | genesisCharge => rfl
  have hsame := (@act_local ember.component ember.placement (scene quiet) (scene loud) rfl rfl).1
  have halike := (@act_local ember.component ember.placement (scene quiet) (scene bright) rfl rfl).2
  exact ⟨(hsame hloud).2, (halike hbright).2, by decide +kernel, by decide +kernel,
    by decide +kernel⟩

end Stance

end TickArena
