import Sgr.Core.SymbolText

/-!
# The names of markets

A feed holds the text of a market, `base/quote` or `base/quote:settle`, and its adapter builds
the symbol of the candles from it. The text of that symbol is without the settle currency; the
readers of stored candles build the symbol of the spot market.
-/

namespace Sgr

/-- `Symbol(base=..., quote=...)`. -/
def UpperCase.symbol (upper : UpperCase) (parts : List Char × List Char) (exchange : ExchangeID)
    (assetClass : AssetClass) : Symbol where
  base := upper.apply (String.ofList parts.1)
  quote := upper.apply (String.ofList parts.2)
  exchange := exchange
  assetClass := assetClass

/-- `split("/")`, when it gives two parts. -/
def twoParts (text : List Char) : Option (List Char × List Char) :=
  if text.count '/' = 1 then some (splitFirst '/' text) else none

/-- `_parse_symbol` of the ccxt adapters; `none` is `SymbolNotFoundError`. -/
def parseSymbol (upper : UpperCase) (text : String) (exchange : ExchangeID) : Option Symbol :=
  (twoParts (splitFirst ':' text.toList).1).map fun parts =>
    upper.symbol parts exchange (if ':' ∈ text.toList then .futures else .spot)

/-- `_FUTURES_SYMBOL_SUFFIX`. -/
def futuresSymbolSuffix : List Char := ['_', 'P', 'E', 'R', 'P']

/-- `_to_pionex_symbol`. -/
def toPionexSymbol (text : String) (futures : Bool) : List Char :=
  let base := (splitFirst ':' text.toList).1.map fun c => if c = '/' then '_' else c
  if futures && !decide (futuresSymbolSuffix <:+ base) then base ++ futuresSymbolSuffix else base

/-- The name without the suffix. -/
def cleanedName (name : List Char) : List Char :=
  if futuresSymbolSuffix <:+ name then name.take (name.length - futuresSymbolSuffix.length)
  else name

/-- `_from_pionex_symbol`. -/
def fromPionexSymbol (upper : UpperCase) (name : List Char) (exchange : ExchangeID)
    (assetClass : AssetClass) : Symbol :=
  upper.symbol (splitFirst '_' (cleanedName name)) exchange assetClass

/-- The symbol of the candles that the adapter of an exchange returns for a text. The Pionex
adapter may work without ccxt, in its `futures_mode` or not. -/
def adapterSymbol (upper : UpperCase) (pionexNative : Option Bool) (text : String) :
    ExchangeID → Option Symbol
  | .pionex =>
      match pionexNative with
      | some futuresMode =>
          some (fromPionexSymbol upper (toPionexSymbol text futuresMode) .pionex
            (if futuresMode then .futures else .spot))
      | none => parseSymbol upper text .pionex
  | exchange => parseSymbol upper text exchange

/-- `_parse_symbol_str` of the backtest loader; `none` is a `ValueError`. -/
def parseSymbolStr (upper : UpperCase) (text : String) (exchange : ExchangeID) : Option Symbol :=
  (twoParts text.toList).map fun parts => upper.symbol parts exchange .spot

/-- The text is in upper case. -/
def UpperCase.Keeps (upper : UpperCase) (text : String) : Prop :=
  ∀ c ∈ text.toList, c ≠ '/' → upper.char c = [c]

/-- The text is the pair of a spot market in upper case, without a settle currency. The names
of Pionex itself keep apart only pairs whose base has no underscore and which do not end like a
perpetual. -/
structure IsSpotText (upper : UpperCase) (pionexNative : Option Bool) (text : String)
    (exchange : ExchangeID) : Prop where
  pair : text.toList.count '/' = 1
  settle : ':' ∉ text.toList
  keeps : upper.Keeps text
  native : exchange = .pionex → ∀ futuresMode ∈ pionexNative, futuresMode = false ∧
    '_' ∉ (splitFirst '/' text.toList).1 ∧ ¬ futuresSymbolSuffix <:+ toPionexSymbol text false

section Names

variable {upper : UpperCase} {pionexNative : Option Bool} {text : String} {exchange : ExchangeID}
  {s : Symbol}

theorem adapterSymbol_cases (h : adapterSymbol upper pionexNative text exchange = some s) :
    parseSymbol upper text exchange = some s ∧ (exchange = .pionex → pionexNative = none) ∨
      exchange = .pionex ∧ ∃ futuresMode, pionexNative = some futuresMode ∧
        s = fromPionexSymbol upper (toPionexSymbol text futuresMode) exchange
          (if futuresMode then .futures else .spot) := by
  unfold adapterSymbol at h
  split at h
  next =>
    cases pionexNative with
    | none => exact .inl ⟨h, fun _ => rfl⟩
    | some futuresMode => exact .inr ⟨rfl, futuresMode, rfl, (Option.some.inj h).symm⟩
  next hother => exact .inl ⟨h, fun hpionex => absurd hpionex hother⟩

/-- The parts of an adapter's symbol are upper case texts. -/
theorem adapterSymbol_eq_symbol (h : adapterSymbol upper pionexNative text exchange = some s) :
    ∃ parts, s = upper.symbol parts exchange s.assetClass := by
  rcases adapterSymbol_cases h with ⟨h, -⟩ | ⟨-, futuresMode, -, rfl⟩
  · obtain ⟨parts, -, rfl⟩ := Option.map_eq_some_iff.1 h
    exact ⟨parts, rfl⟩
  · exact ⟨splitFirst '_' (cleanedName (toPionexSymbol text futuresMode)), rfl⟩

theorem keeps_ccxtSymbol (h : adapterSymbol upper pionexNative text exchange = some s) :
    upper.Keeps s.ccxtSymbol := by
  obtain ⟨parts, hs⟩ := adapterSymbol_eq_symbol h
  intro c hc hslash
  rw [hs, Symbol.toList_ccxtSymbol] at hc
  rcases List.mem_append.1 hc with hc | hc
  · exact upper.char_of_mem_apply hc
  · rcases List.mem_cons.1 hc with rfl | hc
    · exact absurd rfl hslash
    · exact upper.char_of_mem_apply hc

theorem exchange_of_adapterSymbol (h : adapterSymbol upper pionexNative text exchange = some s) :
    s.exchange = exchange := by
  obtain ⟨parts, hs⟩ := adapterSymbol_eq_symbol h
  rw [hs]
  rfl

/-- A text with one slash. -/
theorem exists_parts_of_count (h : text.toList.count '/' = 1) :
    ∃ base quote, text.toList = base ++ '/' :: quote ∧ '/' ∉ base ∧ '/' ∉ quote := by
  have hslash : '/' ∈ text.toList := List.count_pos_iff.1 (by omega)
  refine ⟨_, _, (splitFirst_fst_append hslash).symm, notMem_splitFirst '/' _, ?_⟩
  rw [← splitFirst_fst_append hslash, List.count_append, List.count_cons_self] at h
  exact List.count_eq_zero.1 (by omega)

theorem apply_ofList {chars : List Char} (h : ∀ c ∈ chars, upper.char c = [c]) :
    upper.apply (String.ofList chars) = String.ofList chars :=
  upper.apply_eq_self (by rwa [String.toList_ofList])

theorem symbolOfText_eq (upper : UpperCase) (text : String) (exchange : ExchangeID) :
    symbolOfText upper text exchange =
      upper.symbol (splitFirst '/' text.toList) exchange .spot := rfl

theorem parseSymbolStr_of_count (h : text.toList.count '/' = 1) :
    parseSymbolStr upper text exchange = some (symbolOfText upper text exchange) := by
  rw [parseSymbolStr, twoParts, if_pos h]
  rfl

theorem UpperCase.Keeps.parts {base quote : List Char} (h : upper.Keeps text)
    (htext : text.toList = base ++ '/' :: quote) (hbase : '/' ∉ base) (hquote : '/' ∉ quote) :
    ∀ c ∈ base ++ quote, upper.char c = [c] := by
  intro c hc
  refine h c ?_ ?_
  · rw [htext]
    rcases List.mem_append.1 hc with hc | hc
    · exact List.mem_append_left _ hc
    · exact List.mem_append_right _ (List.mem_cons_of_mem _ hc)
  · rintro rfl
    exact (List.mem_append.1 hc).elim hbase hquote

/-- The Pionex name of a pair. -/
theorem map_slash_pair {base quote : List Char} (hbase : '/' ∉ base) (hquote : '/' ∉ quote) :
    (base ++ '/' :: quote).map (fun c => if c = '/' then '_' else c) = base ++ '_' :: quote := by
  have hid : ∀ {l : List Char}, '/' ∉ l → l.map (fun c => if c = '/' then '_' else c) = l := by
    intro l hl
    refine (List.map_congr_left fun c hc => ?_).trans (List.map_id l)
    exact if_neg fun heq : c = '/' => hl (heq ▸ hc)
  rw [List.map_append, List.map_cons, if_pos rfl, hid hbase, hid hquote]

/-! ### Pairs of the spot market -/

namespace IsSpotText

/-- The symbol of a spot market has the text that the feed holds. -/
theorem ccxtSymbol_symbolOfText (h : IsSpotText upper pionexNative text exchange) :
    (symbolOfText upper text exchange).ccxtSymbol = text := by
  obtain ⟨base, quote, htext, hbase, hquote⟩ := exists_parts_of_count h.pair
  have hkeeps := h.keeps.parts htext hbase hquote
  rw [symbolOfText_eq, htext, splitFirst_append_cons hbase]
  apply String.toList_injective
  rw [Symbol.toList_ccxtSymbol, UpperCase.symbol,
    apply_ofList fun c hc => hkeeps c (List.mem_append_left _ hc),
    apply_ofList fun c hc => hkeeps c (List.mem_append_right _ hc), String.toList_ofList,
    String.toList_ofList, htext]

/-- The adapter builds the symbol of the spot market. -/
theorem adapterSymbol_eq (h : IsSpotText upper pionexNative text exchange) :
    adapterSymbol upper pionexNative text exchange = some (symbolOfText upper text exchange) := by
  have hbefore : (splitFirst ':' text.toList).1 = text.toList := by
    rw [splitFirst_of_notMem h.settle]
  have hparse : parseSymbol upper text exchange = some (symbolOfText upper text exchange) := by
    rw [parseSymbol, hbefore, twoParts, if_pos h.pair, if_neg h.settle]
    rfl
  unfold adapterSymbol
  split
  next =>
    cases hnative : pionexNative with
    | none => exact hparse
    | some futuresMode =>
        obtain ⟨rfl, hbase, hsuffix⟩ := h.native rfl futuresMode hnative
        obtain ⟨base, quote, htext, hslash, hquote⟩ := exists_parts_of_count h.pair
        rw [htext, splitFirst_append_cons hslash] at hbase
        have hname : toPionexSymbol text false = base ++ '_' :: quote := by
          rw [toPionexSymbol, hbefore, htext, map_slash_pair hslash hquote]
          rfl
        simp only [Bool.false_eq_true, if_false]
        rw [fromPionexSymbol, cleanedName, if_neg hsuffix, hname, splitFirst_append_cons hbase,
          symbolOfText_eq, htext, splitFirst_append_cons hslash]
  next => exact hparse

end IsSpotText

section Native

variable {base quote quote' : List Char}

/-- A text of characters that stay as they are. -/
theorem flatMap_char_eq_self {l : List Char} (h : ∀ c ∈ l, upper.char c = [c]) :
    l.flatMap upper.char = l := by
  rw [List.flatMap_def, List.map_congr_left h, ← List.flatMap_def, List.flatMap_singleton']

/-- A suffix that is cut off a name is missing in what is read from it. -/
theorem quote_of_reads (hunder : '_' ∉ base) (hstarts : quote' <+: quote)
    (hkeeps : ∀ c ∈ quote, upper.char c = [c])
    (hbase : (splitFirst '_' (cleanedName (base ++ '_' :: quote'))).1 = base)
    (hquote : (splitFirst '_' (cleanedName (base ++ '_' :: quote'))).2.flatMap upper.char =
      quote) :
    ¬ futuresSymbolSuffix <:+ base ++ '_' :: quote' ∧ quote' = quote := by
  have hpart : ∀ {q : List Char}, q <+: quote' → q.flatMap upper.char = q := fun hq =>
    flatMap_char_eq_self fun c hc => hkeeps c ((hq.trans hstarts).subset hc)
  by_cases hsuffix : futuresSymbolSuffix <:+ base ++ '_' :: quote'
  · exfalso
    have hlength := hsuffix.length_le
    rw [cleanedName, if_pos hsuffix] at hbase hquote
    set cleaned := (base ++ '_' :: quote').take
      ((base ++ '_' :: quote').length - futuresSymbolSuffix.length) with hcleaned
    have hcut : cleaned.length + 5 = (base ++ '_' :: quote').length := by
      rw [hcleaned, List.length_take]
      simp only [futuresSymbolSuffix, List.length_cons, List.length_nil] at hlength ⊢
      omega
    by_cases hmem : '_' ∈ cleaned
    · have hparts := splitFirst_fst_append hmem
      rw [hbase] at hparts
      have htake : cleaned <+: base ++ '_' :: quote' := List.take_prefix _ _
      rw [← hparts, List.prefix_append_right_inj, List.cons_prefix_cons] at htake
      rw [hpart htake.2] at hquote
      rw [← hparts, hquote, List.length_append, List.length_append, List.length_cons,
        List.length_cons] at hcut
      have hle := hstarts.length_le
      omega
    · rw [splitFirst_of_notMem hmem] at hbase hquote
      dsimp only at hbase hquote
      rw [← hquote] at hstarts
      rw [hbase, List.prefix_nil.1 hstarts, List.length_append, List.length_singleton] at hcut
      omega
  · refine ⟨hsuffix, ?_⟩
    rw [cleanedName, if_neg hsuffix, splitFirst_append_cons hunder] at hquote
    rw [← hquote]
    exact (hpart List.prefix_rfl).symm

/-- What is left of the first underscore of a Pionex name comes from the text. -/
theorem mem_base_of_name {c : Char} (htext : text.toList = base ++ '/' :: quote)
    (hc : c ∈ (splitFirst '_' (cleanedName (toPionexSymbol text false))).1) :
    c ∈ base ++ quote ∧ c ≠ ':' := by
  have hcleaned : cleanedName (toPionexSymbol text false) <+: toPionexSymbol text false := by
    unfold cleanedName
    split
    next => exact List.take_prefix _ _
    next => exact List.prefix_rfl
  have hmem := hcleaned.subset ((List.takeWhile_prefix _).subset hc)
  have hne : c ≠ '_' := fun heq => notMem_splitFirst '_' _ (heq ▸ hc)
  obtain ⟨d, hd, rfl⟩ := List.mem_map.1 hmem
  split at hne
  next => exact absurd rfl hne
  next hne' =>
    rw [if_neg hne']
    have hmem' := (List.takeWhile_prefix _).subset hd
    rw [htext] at hmem'
    refine ⟨?_, fun heq => notMem_splitFirst ':' _ (heq ▸ hd)⟩
    rcases List.mem_append.1 hmem' with hd' | hd'
    · exact List.mem_append_left _ hd'
    · exact List.mem_append_right _ ((List.mem_cons.1 hd').resolve_left hne')

/-- A Pionex name that is read as the pair it was made from, in upper case. -/
theorem native_of_reads (hslash : '/' ∉ base) (hquote : '/' ∉ quote)
    (hkeeps : ∀ c ∈ base ++ quote, upper.char c = [c]) (htext : text.toList = base ++ '/' :: quote)
    (hreads : (splitFirst '_' (cleanedName (toPionexSymbol text false))).1.flatMap upper.char =
      base ∧
      (splitFirst '_' (cleanedName (toPionexSymbol text false))).2.flatMap upper.char = quote) :
    ':' ∉ text.toList ∧ '_' ∉ base ∧ ¬ futuresSymbolSuffix <:+ toPionexSymbol text false := by
  have hbase : (splitFirst '_' (cleanedName (toPionexSymbol text false))).1 = base := by
    rw [← flatMap_char_eq_self fun c hc => hkeeps c (mem_base_of_name htext hc).1]
    exact hreads.1
  have hcolon : ':' ∉ base ++ ['/'] := by
    rw [List.mem_append, List.mem_singleton, ← hbase]
    rintro (hc | hc)
    · exact (mem_base_of_name htext hc).2 rfl
    · cases hc
  have hunder : '_' ∉ base := by
    rw [← hbase]
    exact notMem_splitFirst '_' _
  -- so the name is the base, an underscore and the quote up to its first colon
  have hstarts : (splitFirst ':' quote).1 <+: quote := List.takeWhile_prefix _
  have hname : toPionexSymbol text false =
      (splitFirst ':' text.toList).1.map fun c => if c = '/' then '_' else c := rfl
  have hpair : toPionexSymbol text false = base ++ '_' :: (splitFirst ':' quote).1 := by
    rw [hname, htext, List.append_cons, splitFirst_fst_append_left hcolon, ← List.append_cons,
      map_slash_pair hslash fun hc => hquote (hstarts.subset hc)]
  rw [hpair] at hbase hreads ⊢
  obtain ⟨hsuffix, hwhole⟩ := quote_of_reads hunder hstarts
    (fun c hc => hkeeps c (List.mem_append_right _ hc)) hbase hreads.2
  refine ⟨?_, hunder, hsuffix⟩
  rw [htext, List.append_cons, List.mem_append, not_or]
  refine ⟨hcolon, ?_⟩
  rw [← hwhole]
  exact notMem_splitFirst ':' _

end Native

/-- A text that the adapter and the loader read as the same symbol. -/
theorem isSpotText_of_parseSymbolStr
    (h : adapterSymbol upper pionexNative text exchange = some s)
    (hread : parseSymbolStr upper text exchange = some s) (hkeeps : upper.Keeps text) :
    IsSpotText upper pionexNative text exchange := by
  have hpair : text.toList.count '/' = 1 := by
    by_contra hcount
    rw [parseSymbolStr, twoParts, if_neg hcount] at hread
    cases hread
  rw [parseSymbolStr_of_count hpair] at hread
  obtain rfl := Option.some.inj hread
  obtain ⟨base, quote, htext, hbase, hquote⟩ := exists_parts_of_count hpair
  rcases adapterSymbol_cases h with ⟨hparse, hnone⟩ | ⟨rfl, futuresMode, hnative, hs⟩
  · obtain ⟨parts, -, hparts⟩ := Option.map_eq_some_iff.1 hparse
    refine ⟨hpair, fun hcolon => ?_, hkeeps, fun hpionex futuresMode hmem => ?_⟩
    · have hclass := congrArg Symbol.assetClass hparts
      simp [UpperCase.symbol, symbolOfText, hcolon] at hclass
    · rw [hnone hpionex] at hmem
      cases hmem
  · have hmode : futuresMode = false := by
      have hclass := congrArg Symbol.assetClass hs
      cases futuresMode with
      | false => rfl
      | true => cases hclass
    subst hmode
    have hstays := hkeeps.parts htext hbase hquote
    have hlists := And.intro (congrArg (fun s => s.base.toList) hs)
      (congrArg (fun s => s.quote.toList) hs)
    simp only [symbolOfText_eq, htext, splitFirst_append_cons hbase, fromPionexSymbol,
      UpperCase.symbol, UpperCase.toList_apply, String.toList_ofList] at hlists
    rw [flatMap_char_eq_self fun c hc => hstays c (List.mem_append_left _ hc),
      flatMap_char_eq_self fun c hc => hstays c (List.mem_append_right _ hc)] at hlists
    obtain ⟨hcolon, hunder, hsuffix⟩ := native_of_reads hbase hquote hstays htext
      ⟨hlists.1.symm, hlists.2.symm⟩
    refine ⟨hpair, hcolon, hkeeps, fun _ futuresMode hmem => ?_⟩
    rw [hnative] at hmem
    obtain rfl := Option.some.inj hmem
    refine ⟨rfl, ?_, hsuffix⟩
    rwa [htext, splitFirst_append_cons hbase]

end Names

end Sgr
