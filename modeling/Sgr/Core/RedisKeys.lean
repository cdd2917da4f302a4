import Mathlib.Data.List.Infix
import Sgr.Core.SymbolText

/-!
# The keys in Redis

The workers of all tenants and the API share one Redis. The keys are those of
`sgr/market_data/feature_store.py`, `sgr/market_data/ticker_cache.py`,
`sgr/market_data/engine.py`, `sgr/risk/metrics_cache.py`, `sgr/risk/kill_switch.py`,
`sgr/monitoring/worker_health.py`, `sgr/monitoring/worker_metrics_bridge.py` and
`sgr/sentiment/engine.py`. No two of them have one text, whatever the tenants and the symbols are
called, as long as a time frame has no colon.
-/

namespace Sgr

/-- A text without a colon, as a time frame and the text of a number are. -/
structure ColonFree where
  text : String
  colonFree : ':' ∉ text.toList
  deriving DecidableEq

/-- What a key begins with. -/
inductive RedisKind
  | featuresAt (exchange : ExchangeID)
  | latestFeatures
  | latestRegime
  | riskMetrics
  | killSwitchState
  | workerHealth
  | workerMetrics
  | ticker
  | exchangeBan
  | sentiment
  deriving DecidableEq, Repr

/-- The text that a key begins with. -/
def RedisKind.head : RedisKind → String
  | featuresAt exchange => "features:" ++ exchange.value ++ ":"
  | latestFeatures => "features:latest:"
  | latestRegime => "regime:latest:"
  | riskMetrics => "sgr:risk:metrics:"
  | killSwitchState => "sgr:kill_switch:state:"
  | workerHealth => "sgr:worker_health:"
  | workerMetrics => "sgr:worker_metrics:snapshot:"
  | ticker => "sgr:market:ticker:"
  | exchangeBan => "sgr:market:exchange_ban:"
  | sentiment => "sentiment:"

/-- The keys. The symbol of features at a time comes without its exchange. -/
inductive RedisKey
  | featuresAt (exchange : ExchangeID) (symbol : String) (timeframe ts : ColonFree)
  | latestFeatures (symbolKey : String) (timeframe : ColonFree)
  | latestRegime (symbolKey : String) (timeframe : ColonFree)
  | riskMetrics (tenantId : Option String) (tradingMode : TradingMode)
  | killSwitchState (tenantId : Option String) (tradingMode : TradingMode)
  | workerHealth (tenantId : Option String) (tradingMode : TradingMode)
  | workerMetrics (tenantId : String) (tradingMode : TradingMode)
  | ticker (symbol : String)
  | exchangeBan (exchange : ExchangeID)
  | sentiment (symbol : String)

namespace RedisKey

/-- The kind of a key. -/
def kind : RedisKey → RedisKind
  | featuresAt exchange _ _ _ => .featuresAt exchange
  | latestFeatures _ _ => .latestFeatures
  | latestRegime _ _ => .latestRegime
  | riskMetrics _ _ => .riskMetrics
  | killSwitchState _ _ => .killSwitchState
  | workerHealth _ _ => .workerHealth
  | workerMetrics _ _ => .workerMetrics
  | ticker _ => .ticker
  | exchangeBan _ => .exchangeBan
  | sentiment _ => .sentiment

/-- The end of a key of a tenant; without a tenant it is the mode alone. -/
def ofTenant (tenantId : Option String) (tradingMode : TradingMode) : String :=
  match tenantId with
  | none => tradingMode.value
  | some tenant => tenant ++ ":" ++ tradingMode.value

/-- What comes after the kind. -/
def tail : RedisKey → String
  | featuresAt _ symbol timeframe ts => symbol ++ ":" ++ timeframe.text ++ ":" ++ ts.text
  | latestFeatures symbolKey timeframe => symbolKey ++ ":" ++ timeframe.text
  | latestRegime symbolKey timeframe => symbolKey ++ ":" ++ timeframe.text
  | riskMetrics tenantId tradingMode => ofTenant tenantId tradingMode
  | killSwitchState tenantId tradingMode => ofTenant tenantId tradingMode
  | workerHealth tenantId tradingMode => ofTenant tenantId tradingMode
  | workerMetrics tenantId tradingMode => tenantId ++ ":" ++ tradingMode.value
  | ticker symbol => symbol
  | exchangeBan exchange => exchange.value
  | sentiment symbol => symbol

/-- The text of a key. -/
def text (k : RedisKey) : String := k.kind.head ++ k.tail

end RedisKey

/-! ### No two keys have one text -/

/-- No kind begins like another one. -/
theorem RedisKind.eq_of_isPrefix {a b : RedisKind} (h : a.head.toList <+: b.head.toList) :
    a = b := by
  revert h
  rcases a with ⟨_ | _⟩ | _ <;> rcases b with ⟨_ | _⟩ | _ <;> decide

section Text

variable {x y x' y' : String}

/-- The last colon splits a text. -/
theorem append_colon_inj (hy : ':' ∉ y.toList) (hy' : ':' ∉ y'.toList) :
    x ++ ":" ++ y = x' ++ ":" ++ y' ↔ x = x' ∧ y = y' := by
  refine ⟨fun h => ?_, fun ⟨hx, hy⟩ => by rw [hx, hy]⟩
  have hchars : y.toList.reverse ++ ':' :: x.toList.reverse =
      y'.toList.reverse ++ ':' :: x'.toList.reverse := by
    have hreverse := congrArg (fun s : String => s.toList.reverse) h
    simpa using hreverse
  have hsplit := congrArg (splitFirst ':') hchars
  rw [splitFirst_append_cons (by simpa using hy), splitFirst_append_cons (by simpa using hy')]
    at hsplit
  obtain ⟨hys, hxs⟩ := Prod.mk.inj hsplit
  exact ⟨String.toList_inj.1 (List.reverse_injective hxs),
    String.toList_inj.1 (List.reverse_injective hys)⟩

theorem TradingMode.colon_notMem_value (m : TradingMode) : ':' ∉ m.value.toList := by
  cases m <;> decide

theorem TradingMode.value_injective : Function.Injective TradingMode.value := by
  intro m m' h
  cases m <;> cases m' <;> first | rfl | exact absurd h (by decide)

theorem ColonFree.ext_text {a b : ColonFree} (h : a.text = b.text) : a = b := by
  cases a
  cases b
  cases h
  rfl

/-- The mode alone is not the end of a key of a tenant, as it has no colon. -/
theorem RedisKey.ofTenant_none_ne (s : String) (m m' : TradingMode) :
    ofTenant none m ≠ ofTenant (some s) m' := by
  intro h
  have hcolon : ':' ∈ (ofTenant (some s) m').toList := by simp [ofTenant]
  rw [← h] at hcolon
  exact m.colon_notMem_value hcolon

theorem RedisKey.ofTenant_inj {t t' : Option String} {m m' : TradingMode}
    (h : ofTenant t m = ofTenant t' m') : t = t' ∧ m = m' := by
  cases t with
  | none =>
      cases t' with
      | none => exact ⟨rfl, TradingMode.value_injective h⟩
      | some s => exact absurd h (ofTenant_none_ne s m m')
  | some s =>
      cases t' with
      | none => exact absurd h.symm (ofTenant_none_ne s m' m)
      | some s' =>
          obtain ⟨hs, hm⟩ :=
            (append_colon_inj m.colon_notMem_value m'.colon_notMem_value).1 h
          exact ⟨congrArg some hs, TradingMode.value_injective hm⟩

end Text

namespace RedisKey

variable {k k' : RedisKey}

theorem timeframe_inj {x x' : String} {t t' : ColonFree}
    (h : x ++ ":" ++ t.text = x' ++ ":" ++ t'.text) : x = x' ∧ t = t' := by
  obtain ⟨hx, ht⟩ := (append_colon_inj t.colonFree t'.colonFree).1 h
  exact ⟨hx, ColonFree.ext_text ht⟩

/-- Keys of one kind that end alike are the same. -/
theorem eq_of_tail (hkind : k.kind = k'.kind) (htail : k.tail = k'.tail) : k = k' := by
  cases k <;> cases k' <;>
    simp only [kind, reduceCtorEq, RedisKind.featuresAt.injEq] at hkind <;>
    simp only [tail] at htail
  case featuresAt.featuresAt =>
    obtain ⟨hstart, rfl⟩ := timeframe_inj htail
    obtain ⟨rfl, rfl⟩ := timeframe_inj hstart
    rw [hkind]
  case latestFeatures.latestFeatures =>
    obtain ⟨rfl, rfl⟩ := timeframe_inj htail
    rfl
  case latestRegime.latestRegime =>
    obtain ⟨rfl, rfl⟩ := timeframe_inj htail
    rfl
  case riskMetrics.riskMetrics =>
    obtain ⟨rfl, rfl⟩ := ofTenant_inj htail
    rfl
  case killSwitchState.killSwitchState =>
    obtain ⟨rfl, rfl⟩ := ofTenant_inj htail
    rfl
  case workerHealth.workerHealth =>
    obtain ⟨rfl, rfl⟩ := ofTenant_inj htail
    rfl
  case workerMetrics.workerMetrics =>
    obtain ⟨rfl, hmode⟩ := (append_colon_inj (TradingMode.colon_notMem_value _)
      (TradingMode.colon_notMem_value _)).1 htail
    rw [TradingMode.value_injective hmode]
  case ticker.ticker => rw [htail]
  case exchangeBan.exchangeBan => rw [ExchangeID.value_injective htail]
  case sentiment.sentiment => rw [htail]

/-- Different keys have different texts. -/
theorem text_injective : Function.Injective RedisKey.text := by
  intro k k' h
  have hchars : k.kind.head.toList ++ k.tail.toList = k'.kind.head.toList ++ k'.tail.toList := by
    simpa [text] using congrArg String.toList h
  have hkind : k.kind = k'.kind := by
    rcases List.prefix_or_prefix_of_prefix (List.prefix_append _ _)
      (hchars ▸ List.prefix_append _ _) with hle | hle
    · exact (RedisKind.eq_of_isPrefix hle).symm
    · exact RedisKind.eq_of_isPrefix hle
  rw [hkind] at hchars
  exact eq_of_tail hkind (String.toList_inj.1 (List.append_cancel_left hchars))

end RedisKey

end Sgr
