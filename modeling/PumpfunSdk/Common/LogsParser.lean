import PumpfunSdk.Common.LogsData
import Mathlib.Data.List.GetD
import PumpfunSdk.Codec.Base64

/-! `common/logs_parser.rs`: the two cursor decoders of base64 payloads. Both skip an
8-byte header (the create decoder only when the buffer is longer than 8 bytes) and render
each 32-byte address through base58 and `Pubkey::from_str(..).unwrap()`. The create decoder
checks every bound before it slices; the trade decoder checks none, so a short buffer makes
its first slice panic. -/

namespace PumpfunSdk

open Outcome

def readU32 (data : List UInt8) : Outcome Nat := do
  let bytes ← sliceRange data 0 4
  pure (leValue bytes)

def base58At (decoded : List UInt8) (offset : Nat) : Outcome String := do
  let bytes ← sliceRange decoded offset (offset + 32)
  pure (Base58.encode bytes)

def u64At (decoded : List UInt8) (offset : Nat) : Outcome UInt64 := do
  let bytes ← sliceRange decoded offset (offset + 8)
  pure (UInt64.ofNat (leValue bytes))

def i64At (decoded : List UInt8) (offset : Nat) : Outcome (BitVec 64) := do
  let bytes ← sliceRange decoded offset (offset + 8)
  pure (BitVec.ofNat 64 (leValue bytes))

/-- One length-prefixed text of `parse_create_token_data`, read at `cursor`: its `u32`
length, the bound check, the bytes and `String::from_utf8`. The source repeats this block
for `name`, `symbol` and the URI; `label` names the field in the two bound errors and
`utf8Label` in the UTF-8 error, which the source spells `URI` and `uri` for the last one.
Returns the text and the cursor after it. -/
def readTextField (decoded : List UInt8) (cursor : Nat) (label utf8Label : String) :
    ClientResult (RustString × Nat) := do
  if cursor + 4 > decoded.length then
    ClientResult.err (.other ("Data too short for " ++ label ++ " length"))
  let rest ← (sliceFrom decoded cursor : Outcome _)
  let len ← (readU32 rest : Outcome _)
  let cursor := cursor + 4
  if cursor + len > decoded.length then
    ClientResult.err
      (.other ("Data too short for " ++ label ++ ": need " ++ toString len ++ " bytes"))
  let bytes ← (sliceRange decoded cursor (cursor + len) : Outcome _)
  match RustString.fromUtf8 bytes with
  | .ok text => pure (text, cursor + len)
  | .error e => ClientResult.err (.other ("Invalid UTF-8 in " ++ utf8Label ++ ": " ++ e.toString))

def parseCreateTokenData (data : String) : ClientResult CreateTokenInfo := do
  let decoded ← match Base64.decode data with
    | .ok decoded => pure decoded
    | .error e => ClientResult.err (.other ("Failed to decode base64: " ++ e.toString))
  let cursor := if decoded.length > 8 then 8 else 0
  let (name, cursor) ← readTextField decoded cursor "name" "name"
  let (symbol, cursor) ← readTextField decoded cursor "symbol" "symbol"
  let (uri, cursor) ← readTextField decoded cursor "URI" "uri"
  if cursor + 32 * 3 > decoded.length then
    ClientResult.err (.other "Data too short for public keys")
  let mint ← (base58At decoded cursor : Outcome _)
  let bondingCurve ← (base58At decoded (cursor + 32) : Outcome _)
  let user ← (base58At decoded (cursor + 64) : Outcome _)
  let mint ← (unwrap (Pubkey.fromStr mint) : Outcome _)
  let bondingCurve ← (unwrap (Pubkey.fromStr bondingCurve) : Outcome _)
  let user ← (unwrap (Pubkey.fromStr user) : Outcome _)
  pure ⟨0, name, symbol, uri, mint, bondingCurve, user⟩

/-- `parse_trade_data`. The cursor starts past the 8-byte header and moves over the fields
in order; no bound is checked. -/
def parseTradeData (data : String) : ClientResult TradeInfo := do
  let decoded ← match Base64.decode data with
    | .ok decoded => pure decoded
    | .error e => ClientResult.err (.parse "Failed to decode base64" e.toString)
  let cursor := 8
  let mint ← (base58At decoded cursor : Outcome _)
  let cursor := cursor + 32
  let solAmount ← (u64At decoded cursor : Outcome _)
  let cursor := cursor + 8
  let tokenAmount ← (u64At decoded cursor : Outcome _)
  let cursor := cursor + 8
  let isBuyByte ← (index decoded cursor : Outcome _)
  let cursor := cursor + 1
  let user ← (base58At decoded cursor : Outcome _)
  let cursor := cursor + 32
  let timestamp ← (i64At decoded cursor : Outcome _)
  let cursor := cursor + 8
  let virtualSolReserves ← (u64At decoded cursor : Outcome _)
  let cursor := cursor + 8
  let virtualTokenReserves ← (u64At decoded cursor : Outcome _)
  let cursor := cursor + 8
  let realSolReserves ← (u64At decoded cursor : Outcome _)
  let cursor := cursor + 8
  let realTokenReserves ← (u64At decoded cursor : Outcome _)
  let mint ← (unwrap (Pubkey.fromStr mint) : Outcome _)
  let user ← (unwrap (Pubkey.fromStr user) : Outcome _)
  pure ⟨0, mint, solAmount, tokenAmount, isBuyByte != 0, user, timestamp, virtualSolReserves,
    virtualTokenReserves, realSolReserves, realTokenReserves⟩

theorem readU32_of_le {data : List UInt8} (h : 4 ≤ data.length) :
    readU32 data = .ret (leValue (data.take 4)) := by
  simp [readU32, sliceRange_of_le (Nat.zero_le 4) h]

theorem drop_eq_leBytes {decoded : List UInt8} {cursor : Nat}
    (room : cursor + 4 ≤ decoded.length) :
    decoded.drop cursor =
      leBytes 4 (leValue ((decoded.drop cursor).take 4)) ++ decoded.drop (cursor + 4) := by
  have four : ((decoded.drop cursor).take 4).length = 4 := by simp; omega
  have bytes := leBytes_leValue ((decoded.drop cursor).take 4)
  rw [four] at bytes
  rw [bytes, ← List.drop_drop, List.take_append_drop]

theorem leValue_leBytes_four {n : Nat} (small : n < 2 ^ 32) : leValue (leBytes 4 n) = n := by
  rw [leValue_leBytes, Nat.mod_eq_of_lt (by simpa using small)]

theorem leBytes_append_inj {n : Nat} {text rest tail : List UInt8} (small : n < 2 ^ 32)
    (textSmall : text.length < 2 ^ 32)
    (split : leBytes 4 text.length ++ text ++ rest = leBytes 4 n ++ tail) :
    n = text.length ∧ tail = text ++ rest := by
  rw [List.append_assoc] at split
  obtain ⟨lengths, rest⟩ := List.append_inj split (by simp)
  have := congrArg leValue lengths
  rw [leValue_leBytes_four small, leValue_leBytes_four textSmall] at this
  exact ⟨this.symm, rest.symm⟩

theorem readTextField_ok_iff {decoded : List UInt8} {cursor : Nat} {label utf8Label : String}
    {text : RustString} {next : Nat} :
    readTextField decoded cursor label utf8Label = .ok (text, next) ↔
      text.bytes.length < 2 ^ 32 ∧ next = cursor + 4 + text.bytes.length ∧
        decoded.drop cursor = leBytes 4 text.bytes.length ++ text.bytes ++ decoded.drop next := by
  unfold readTextField
  by_cases room : cursor + 4 > decoded.length
  · simp only [room, if_true, ClientResult.err_bind, reduceCtorEq, false_iff]
    rintro ⟨-, -, split⟩
    have := congrArg List.length split
    simp at this
    omega
  have prefixed := drop_eq_leBytes (Nat.not_lt.mp room)
  have small : leValue ((decoded.drop cursor).take 4) < 2 ^ 32 := by
    have four : ((decoded.drop cursor).take 4).length = 4 := by simp; omega
    exact lt_of_lt_of_eq (leValue_lt _) (by rw [four]; norm_num)
  simp only [room, if_false, sliceFrom_of_le (by omega : cursor ≤ decoded.length),
    readU32_of_le (by simp; omega : 4 ≤ (decoded.drop cursor).length), ClientResult.lift_ret,
    ClientResult.pure_eq, ClientResult.ok_bind]
  generalize leValue ((decoded.drop cursor).take 4) = n at prefixed small ⊢
  by_cases fits : cursor + 4 + n > decoded.length
  · simp only [fits, if_true, ClientResult.err_bind, reduceCtorEq, false_iff]
    rintro ⟨textSmall, -, split⟩
    obtain ⟨rfl, rest⟩ := leBytes_append_inj small textSmall (split.symm.trans prefixed)
    have := congrArg List.length rest
    simp at this
    omega
  simp only [fits, if_false, sliceRange_of_le (by omega : cursor + 4 ≤ cursor + 4 + n)
    (by omega : cursor + 4 + n ≤ decoded.length), ClientResult.lift_ret, ClientResult.ok_bind,
    Nat.add_sub_cancel_left]
  constructor
  · intro h
    split at h
    · rename_i t ht
      cases h
      have bytes := RustString.fromUtf8_ok ht
      have count : text.bytes.length = n := by rw [bytes]; simp; omega
      refine ⟨count ▸ small, by rw [count], ?_⟩
      rw [count, prefixed, bytes, List.append_assoc, ← List.drop_drop n (cursor + 4),
        List.take_append_drop]
    · cases h
  · rintro ⟨textSmall, rfl, split⟩
    obtain ⟨rfl, rest⟩ := leBytes_append_inj small textSmall (split.symm.trans prefixed)
    rw [rest, List.take_left, RustString.fromUtf8_bytes]

theorem readTextField_ne_panic (decoded : List UInt8) (cursor : Nat) (label utf8Label : String) :
    readTextField decoded cursor label utf8Label ≠ .panic := by
  unfold readTextField
  by_cases room : cursor + 4 > decoded.length
  · simp [room]
  simp only [room, if_false, sliceFrom_of_le (by omega : cursor ≤ decoded.length),
    readU32_of_le (by simp; omega : 4 ≤ (decoded.drop cursor).length), ClientResult.lift_ret,
    ClientResult.pure_eq, ClientResult.ok_bind]
  generalize leValue ((decoded.drop cursor).take 4) = n
  by_cases fits : cursor + 4 + n > decoded.length
  · simp [fits]
  simp only [fits, if_false, sliceRange_of_le (by omega : cursor + 4 ≤ cursor + 4 + n)
    (by omega : cursor + 4 + n ≤ decoded.length), ClientResult.lift_ret, ClientResult.ok_bind]
  split <;> simp

theorem base58At_of_le {decoded : List UInt8} {offset : Nat} (h : offset + 32 ≤ decoded.length) :
    base58At decoded offset = .ret (Base58.encode ((decoded.drop offset).take 32)) := by
  simp [base58At, sliceRange_of_le (Nat.le_add_right offset 32) h]

theorem u64At_of_le {decoded : List UInt8} {offset : Nat} (h : offset + 8 ≤ decoded.length) :
    u64At decoded offset = .ret (UInt64.ofNat (leValue ((decoded.drop offset).take 8))) := by
  simp [u64At, sliceRange_of_le (Nat.le_add_right offset 8) h]

theorem i64At_of_le {decoded : List UInt8} {offset : Nat} (h : offset + 8 ≤ decoded.length) :
    i64At decoded offset = .ret (BitVec.ofNat 64 (leValue ((decoded.drop offset).take 8))) := by
  simp [i64At, sliceRange_of_le (Nat.le_add_right offset 8) h]

theorem base58At_of_lt {decoded : List UInt8} {offset : Nat} (h : decoded.length < offset + 32) :
    base58At decoded offset = .panic := by
  simp [base58At, sliceRange_of_lt h]

theorem u64At_of_lt {decoded : List UInt8} {offset : Nat} (h : decoded.length < offset + 8) :
    u64At decoded offset = .panic := by
  simp [u64At, sliceRange_of_lt h]

theorem i64At_of_lt {decoded : List UInt8} {offset : Nat} (h : decoded.length < offset + 8) :
    i64At decoded offset = .panic := by
  simp [i64At, sliceRange_of_lt h]

theorem unwrap_fromStr_encode (bytes : List UInt8) (h : bytes.length = 32) :
    unwrap (Pubkey.fromStr (Base58.encode bytes)) = .ret ⟨bytes, h⟩ := by
  have := Pubkey.fromStr_toString ⟨bytes, h⟩
  rw [Pubkey.toString] at this
  rw [this, unwrap]

theorem take_drop_length {decoded : List UInt8} {offset n : Nat}
    (h : offset + n ≤ decoded.length) :
    ((decoded.drop offset).take n).length = n := by
  simp; omega

theorem drop_eq_take_append (decoded : List UInt8) (offset n : Nat) :
    decoded.drop offset = (decoded.drop offset).take n ++ decoded.drop (offset + n) := by
  rw [← List.drop_drop n offset, List.take_append_drop]

theorem parseCreateTokenData_layout {data : String} {b : List UInt8}
    (hb : Base64.decode data = .ok b)
    {info : CreateTokenInfo} (h : parseCreateTokenData data = .ok info) :
    ∃ header rest, header.length = 8 ∧ info.slot = 0 ∧
      info.name.bytes.length < 2 ^ 32 ∧ info.symbol.bytes.length < 2 ^ 32 ∧
      info.uri.bytes.length < 2 ^ 32 ∧
      b = header ++ leBytes 4 info.name.bytes.length ++ info.name.bytes ++
        leBytes 4 info.symbol.bytes.length ++ info.symbol.bytes ++
        leBytes 4 info.uri.bytes.length ++ info.uri.bytes ++
        info.mint.bytes ++ info.bondingCurve.bytes ++ info.user.bytes ++ rest := by
  simp only [parseCreateTokenData, hb, ClientResult.pure_eq, ClientResult.ok_bind] at h
  obtain ⟨⟨name, c1⟩, hname, h⟩ := ClientResult.bind_eq_ok.mp h
  obtain ⟨⟨symbol, c2⟩, hsymbol, h⟩ := ClientResult.bind_eq_ok.mp h
  obtain ⟨⟨uri, c3⟩, huri, h⟩ := ClientResult.bind_eq_ok.mp h
  rw [readTextField_ok_iff] at hname hsymbol huri
  by_cases keys : c3 + 32 * 3 > b.length
  · simp [keys] at h
  have long : 8 < b.length := by omega
  simp only [keys, if_false, base58At_of_le (by omega : c3 + 32 ≤ b.length),
    base58At_of_le (by omega : c3 + 32 + 32 ≤ b.length),
    base58At_of_le (by omega : c3 + 64 + 32 ≤ b.length),
    unwrap_fromStr_encode _ (take_drop_length (by omega : c3 + 32 ≤ b.length)),
    unwrap_fromStr_encode _ (take_drop_length (by omega : c3 + 32 + 32 ≤ b.length)),
    unwrap_fromStr_encode _ (take_drop_length (by omega : c3 + 64 + 32 ≤ b.length)),
    ClientResult.lift_ret, ClientResult.ok_bind, ClientResult.ok.injEq] at h
  subst h
  simp only [long, if_true] at hname
  refine ⟨b.take 8, b.drop (c3 + 96), by simp; omega, rfl, hname.1, hsymbol.1, huri.1, ?_⟩
  conv_lhs => rw [← List.take_append_drop 8 b, hname.2.2, hsymbol.2.2, huri.2.2,
    drop_eq_take_append b c3 32, drop_eq_take_append b (c3 + 32) 32,
    drop_eq_take_append b (c3 + 32 + 32) 32]
  simp only [List.append_assoc]

theorem readTextField_of_prefix {decoded : List UInt8} {cursor : Nat} (label utf8Label : String)
    {text : RustString} {more : List UInt8} (small : text.bytes.length < 2 ^ 32)
    (prefixed : decoded.drop cursor = leBytes 4 text.bytes.length ++ text.bytes ++ more) :
    readTextField decoded cursor label utf8Label = .ok (text, cursor + 4 + text.bytes.length) ∧
      decoded.drop (cursor + 4 + text.bytes.length) = more := by
  have next : decoded.drop (cursor + 4 + text.bytes.length) = more := by
    rw [Nat.add_assoc, ← List.drop_drop, prefixed, List.drop_left' (by simp)]
  exact ⟨readTextField_ok_iff.mpr ⟨small, rfl, by rw [next]; exact prefixed⟩, next⟩

theorem unwrap_fromStr_key (k : Pubkey) :
    unwrap (Pubkey.fromStr (Base58.encode k.bytes)) = .ret k := by
  rw [← Pubkey.toString, Pubkey.fromStr_toString, unwrap]

theorem parseCreateTokenData_of_layout {data : String} {b : List UInt8}
    (hb : Base64.decode data = .ok b) (header rest : List UInt8) {info : CreateTokenInfo}
    (hh : header.length = 8) (hslot : info.slot = 0)
    (hname : info.name.bytes.length < 2 ^ 32) (hsymbol : info.symbol.bytes.length < 2 ^ 32)
    (huri : info.uri.bytes.length < 2 ^ 32)
    (layout : b = header ++ leBytes 4 info.name.bytes.length ++ info.name.bytes ++
        leBytes 4 info.symbol.bytes.length ++ info.symbol.bytes ++
        leBytes 4 info.uri.bytes.length ++ info.uri.bytes ++
        info.mint.bytes ++ info.bondingCurve.bytes ++ info.user.bytes ++ rest) :
    parseCreateTokenData data = .ok info := by
  have d0 : b.drop 8 = leBytes 4 info.name.bytes.length ++ info.name.bytes ++
      (leBytes 4 info.symbol.bytes.length ++ info.symbol.bytes ++
      (leBytes 4 info.uri.bytes.length ++ info.uri.bytes ++
      (info.mint.bytes ++ info.bondingCurve.bytes ++ info.user.bytes ++ rest))) := by
    rw [layout]; simp [hh]
  obtain ⟨r1, d1⟩ := readTextField_of_prefix "name" "name" hname d0
  obtain ⟨r2, d2⟩ := readTextField_of_prefix "symbol" "symbol" hsymbol d1
  obtain ⟨r3, d3⟩ := readTextField_of_prefix "URI" "uri" huri d2
  generalize 8 + 4 + info.name.bytes.length + 4 + info.symbol.bytes.length + 4 +
    info.uri.bytes.length = c3 at r3 d3
  have long : 8 < b.length := by
    have := congrArg List.length layout; simp at this; omega
  have keys : c3 + 96 ≤ b.length := by
    have := congrArg List.length d3; simp [info.mint.length_bytes, info.bondingCurve.length_bytes,
      info.user.length_bytes] at this; omega
  have k1 : (b.drop c3).take 32 = info.mint.bytes := by
    rw [d3, List.append_assoc, List.append_assoc, List.take_left' info.mint.length_bytes]
  have k2 : (b.drop (c3 + 32)).take 32 = info.bondingCurve.bytes := by
    rw [← List.drop_drop, d3, List.append_assoc, List.append_assoc,
      List.drop_left' info.mint.length_bytes, List.take_left' info.bondingCurve.length_bytes]
  have k3 : (b.drop (c3 + 64)).take 32 = info.user.bytes := by
    rw [show c3 + 64 = c3 + (32 + 32) from rfl, ← List.drop_drop, ← List.drop_drop, d3,
      List.append_assoc, List.append_assoc, List.drop_left' info.mint.length_bytes,
      List.drop_left' info.bondingCurve.length_bytes, List.take_left' info.user.length_bytes]
  simp only [parseCreateTokenData, hb, gt_iff_lt, long, if_true, r1, r2, r3,
    ClientResult.pure_eq, ClientResult.ok_bind, Nat.not_lt.mpr keys, if_false,
    base58At_of_le (by omega : c3 + 32 ≤ b.length),
    base58At_of_le (by omega : c3 + 32 + 32 ≤ b.length),
    base58At_of_le (by omega : c3 + 64 + 32 ≤ b.length), k1, k2, k3, unwrap_fromStr_key,
    ClientResult.lift_ret]
  rw [← hslot]

theorem parseCreateTokenData_ne_panic (data : String) : parseCreateTokenData data ≠ .panic := by
  unfold parseCreateTokenData
  cases hb : Base64.decode data with
  | error e => simp
  | ok b =>
    simp only [ClientResult.pure_eq, ClientResult.ok_bind]
    refine ClientResult.bind_ne_panic (readTextField_ne_panic _ _ _ _) fun ⟨name, c1⟩ _ => ?_
    refine ClientResult.bind_ne_panic (readTextField_ne_panic _ _ _ _) fun ⟨symbol, c2⟩ _ => ?_
    refine ClientResult.bind_ne_panic (readTextField_ne_panic _ _ _ _) fun ⟨uri, c3⟩ _ => ?_
    by_cases keys : c3 + 32 * 3 > b.length
    · simp [keys]
    simp only [keys, if_false, base58At_of_le (by omega : c3 + 32 ≤ b.length),
      base58At_of_le (by omega : c3 + 32 + 32 ≤ b.length),
      base58At_of_le (by omega : c3 + 64 + 32 ≤ b.length),
      unwrap_fromStr_encode _ (take_drop_length (by omega : c3 + 32 ≤ b.length)),
      unwrap_fromStr_encode _ (take_drop_length (by omega : c3 + 32 + 32 ≤ b.length)),
      unwrap_fromStr_encode _ (take_drop_length (by omega : c3 + 64 + 32 ≤ b.length)),
      ClientResult.lift_ret, ClientResult.ok_bind, ClientResult.pure_eq, ClientResult.ok_bind]
    simp

theorem parseTradeData_of_long {data : String} {b : List UInt8} (hb : Base64.decode data = .ok b)
    (long : 129 ≤ b.length) :
    parseTradeData data = .ok ⟨0, ⟨(b.drop 8).take 32, take_drop_length (by omega)⟩,
      UInt64.ofNat (leValue ((b.drop 40).take 8)), UInt64.ofNat (leValue ((b.drop 48).take 8)),
      b.get ⟨56, by omega⟩ != 0, ⟨(b.drop 57).take 32, take_drop_length (by omega)⟩,
      BitVec.ofNat 64 (leValue ((b.drop 89).take 8)), UInt64.ofNat (leValue ((b.drop 97).take 8)),
      UInt64.ofNat (leValue ((b.drop 105).take 8)), UInt64.ofNat (leValue ((b.drop 113).take 8)),
      UInt64.ofNat (leValue ((b.drop 121).take 8))⟩ := by
  simp only [parseTradeData, hb, ClientResult.pure_eq, ClientResult.ok_bind, Nat.reduceAdd,
    base58At_of_le (by omega : 8 + 32 ≤ b.length),
    base58At_of_le (by omega : 57 + 32 ≤ b.length),
    u64At_of_le (by omega : 40 + 8 ≤ b.length), u64At_of_le (by omega : 48 + 8 ≤ b.length),
    u64At_of_le (by omega : 97 + 8 ≤ b.length), u64At_of_le (by omega : 105 + 8 ≤ b.length),
    u64At_of_le (by omega : 113 + 8 ≤ b.length), u64At_of_le (by omega : 121 + 8 ≤ b.length),
    i64At_of_le (by omega : 89 + 8 ≤ b.length), index_of_lt (by omega : 56 < b.length),
    unwrap_fromStr_encode _ (take_drop_length (by omega : 8 + 32 ≤ b.length)),
    unwrap_fromStr_encode _ (take_drop_length (by omega : 57 + 32 ≤ b.length)),
    ClientResult.lift_ret]

theorem parseTradeData_eq_panic_iff (data : String) :
    parseTradeData data = .panic ↔ ∃ b, Base64.decode data = .ok b ∧ b.length < 129 := by
  cases hb : Base64.decode data with
  | error e => simp [parseTradeData, hb]
  | ok b =>
    simp only [Except.ok.injEq, exists_eq_left']
    by_cases long : 129 ≤ b.length
    · simp [parseTradeData_of_long hb long]; omega
    · have short : b.length < 40 ∨ b.length < 48 ∧ 40 ≤ b.length ∨
          b.length < 56 ∧ 48 ≤ b.length ∨ b.length = 56 ∨
          b.length < 89 ∧ 57 ≤ b.length ∨ b.length < 97 ∧ 89 ≤ b.length ∨
          b.length < 105 ∧ 97 ≤ b.length ∨ b.length < 113 ∧ 105 ≤ b.length ∨
          b.length < 121 ∧ 113 ≤ b.length ∨ b.length < 129 ∧ 121 ≤ b.length := by omega
      rcases short with h | h | h | h | h | h | h | h | h | h <;>
        simp (disch := omega) only [parseTradeData, hb, base58At_of_le, base58At_of_lt, u64At_of_le,
          u64At_of_lt, i64At_of_le, i64At_of_lt, index_of_lt, index_of_le, ClientResult.pure_eq,
          ClientResult.ok_bind, ClientResult.lift_ret, ClientResult.lift_panic,
          ClientResult.panic_bind, Nat.reduceAdd, true_iff] <;> omega

theorem parseCreateTokenData_slot {data : String} {info : CreateTokenInfo}
    (parsed : parseCreateTokenData data = .ok info) : info.slot = 0 := by
  cases hb : Base64.decode data with
  | error e => simp [parseCreateTokenData, hb] at parsed
  | ok b =>
    obtain ⟨-, -, -, slot, -⟩ := parseCreateTokenData_layout hb parsed
    exact slot

theorem parseTradeData_slot {data : String} {t : TradeInfo} (parsed : parseTradeData data = .ok t) :
    t.slot = 0 := by
  cases hb : Base64.decode data with
  | error e => simp [parseTradeData, hb] at parsed
  | ok b =>
    by_cases long : 129 ≤ b.length
    · rw [parseTradeData_of_long hb long] at parsed
      cases parsed
      rfl
    · rw [(parseTradeData_eq_panic_iff data).mpr ⟨b, hb, by omega⟩] at parsed
      cases parsed

theorem parseCreateTokenData_serialize {info : CreateTokenInfo} {bytes : List UInt8}
    (h : info.serialize = .ok bytes) :
    parseCreateTokenData (Base64.encode bytes) = .ok { info with slot := 0 } := by
  obtain ⟨hn, hs, hu, rfl⟩ := CreateTokenInfo.serialize_eq_ok h
  exact parseCreateTokenData_of_layout (Base64.decode_encode _) (Borsh.writeU64 info.slot) []
    (by simp [Borsh.writeU64]) rfl hn hs hu (by simp)

theorem isBuy_byte (isBuy : Bool) : ((if isBuy then (1 : UInt8) else 0) != 0) = isBuy := by
  cases isBuy <;> rfl

theorem parseTradeData_serialize (t : TradeInfo) :
    parseTradeData (Base64.encode t.serialize) = .ok { t with slot := 0 } := by
  rw [parseTradeData_of_long (Base64.decode_encode _) (by rw [TradeInfo.serialize_length])]
  simp [TradeInfo.serialize, List.drop_append_eq_append_drop, List.take_append_eq_append_take,
    List.drop_eq_nil_of_le, List.getElem_append, Borsh.writeU64, Borsh.writeI64, Borsh.writeBool,
    t.mint.length_bytes, t.user.length_bytes, List.take_of_length_le, isBuy_byte,
    BitVec.ofNat_toNat]

theorem parse_create_token_data_exact :
    (∀ data, parseCreateTokenData data ≠ .panic) ∧
    (∀ data b, Base64.decode data = .ok b → ∀ info,
      parseCreateTokenData data = .ok info ↔
        ∃ header rest, header.length = 8 ∧ info.slot = 0 ∧
          info.name.bytes.length < 2 ^ 32 ∧ info.symbol.bytes.length < 2 ^ 32 ∧
          info.uri.bytes.length < 2 ^ 32 ∧
          b = header ++ leBytes 4 info.name.bytes.length ++ info.name.bytes ++
            leBytes 4 info.symbol.bytes.length ++ info.symbol.bytes ++
            leBytes 4 info.uri.bytes.length ++ info.uri.bytes ++
            info.mint.bytes ++ info.bondingCurve.bytes ++ info.user.bytes ++ rest) ∧
    (∀ (info : CreateTokenInfo) bytes, info.serialize = .ok bytes →
      parseCreateTokenData (Base64.encode bytes) = .ok { info with slot := 0 }) ∧
    (∀ key : Pubkey, Pubkey.fromStr (Base58.encode key.bytes) = .ok key) :=
  ⟨parseCreateTokenData_ne_panic,
    fun _ _ hb _ => ⟨parseCreateTokenData_layout hb,
      fun ⟨header, rest, hh, hs, hn, hy, hu, layout⟩ =>
        parseCreateTokenData_of_layout hb header rest hh hs hn hy hu layout⟩,
    fun _ _ h => parseCreateTokenData_serialize h, Pubkey.fromStr_toString⟩

theorem parse_create_token_data_blank_record :
    CreateTokenInfo.serialize ⟨7, .empty, .empty, .empty, ⟨List.replicate 32 0, rfl⟩,
        ⟨List.replicate 32 0, rfl⟩, ⟨List.replicate 32 0, rfl⟩⟩ =
      .ok (Borsh.writeU64 7 ++ List.replicate 108 0) ∧
    parseCreateTokenData (Base64.encode (Borsh.writeU64 7 ++ List.replicate 108 0)) =
      .ok ⟨0, .empty, .empty, .empty, ⟨List.replicate 32 0, rfl⟩, ⟨List.replicate 32 0, rfl⟩,
        ⟨List.replicate 32 0, rfl⟩⟩ :=
  ⟨by decide, parse_create_token_data_exact.2.2.1 ⟨7, .empty, .empty, .empty,
    ⟨List.replicate 32 0, rfl⟩, ⟨List.replicate 32 0, rfl⟩, ⟨List.replicate 32 0, rfl⟩⟩ _
    (by decide)⟩

theorem parse_trade_data_fields :
    (∀ data b, Base64.decode data = .ok b → 129 ≤ b.length →
      ∃ t, parseTradeData data = .ok t ∧ t.slot = 0 ∧
        t.mint.bytes = (b.drop 8).take 32 ∧
        t.solAmount = UInt64.ofNat (leValue ((b.drop 40).take 8)) ∧
        t.tokenAmount = UInt64.ofNat (leValue ((b.drop 48).take 8)) ∧
        t.isBuy = (b.getD 56 0 != 0) ∧
        t.user.bytes = (b.drop 57).take 32 ∧
        t.timestamp = BitVec.ofNat 64 (leValue ((b.drop 89).take 8)) ∧
        t.virtualSolReserves = UInt64.ofNat (leValue ((b.drop 97).take 8)) ∧
        t.virtualTokenReserves = UInt64.ofNat (leValue ((b.drop 105).take 8)) ∧
        t.realSolReserves = UInt64.ofNat (leValue ((b.drop 113).take 8)) ∧
        t.realTokenReserves = UInt64.ofNat (leValue ((b.drop 121).take 8))) ∧
    (∀ t : TradeInfo, parseTradeData (Base64.encode t.serialize) = .ok { t with slot := 0 }) :=
  ⟨fun _ b hb long => ⟨_, parseTradeData_of_long hb long, rfl, rfl, rfl, rfl,
    by rw [List.getD_eq_getElem _ _ (by omega)]; rfl, rfl, rfl, rfl, rfl, rfl, rfl⟩,
    parseTradeData_serialize⟩

theorem parse_trade_data_zero_buffer :
    ∃ t, parseTradeData (Base64.encode (List.replicate 129 0)) = .ok t ∧ t.slot = 0 ∧
      t.isBuy = false :=
  let ⟨t, h, slot, _, _, _, isBuy, _⟩ :=
    parse_trade_data_fields.1 _ _ (Base64.decode_encode _) (by simp)
  ⟨t, h, slot, by rw [isBuy]; decide⟩

end PumpfunSdk
