import Gutd.Bpf.TextHeaders
import Gutd.Bpf.XdpRejection
import Gutd.Shared.Scan
import Mathlib.Tactic.IntervalCases

set_option autoImplicit false

namespace Gutd.Bpf

open Bytes Scan

def datePattern : Pattern := literal (ascii "Date: ")

def tokenPattern : Pattern := [some 0x7A, none, none, none, none, none, none, some 0x2D]

def markerPattern : Pattern := literal sipMarker

-- the domain as it stands in a header: a response names it in the `Via` line alone, a request in front of a space too
def nameText (wgType : UInt8) (domain : Buf) : Buf :=
  if wgType = 2 ∨ wgType = 3 then domain else domain ++ [0x20]

structure Unambiguous (text : Buf) : Prop where
  date : Quiet datePattern text []
  token : Quiet tokenPattern text []
  marker : Quiet markerPattern text []

section Callbacks

variable {scan : Buf} {maxLen idx : Nat} {ctx : SipScan}

theorem sipDateExtractCb_eq (inside : idx + 7 ≤ maxLen) (quiet : ¬MatchesAt datePattern scan idx) :
    sipDateExtractCb scan maxLen idx ctx = (ctx, false) := by
  have other : slice scan idx (idx + 6) ≠ ascii "Date: " := fun same =>
    quiet ((slice_eq_iff (ascii "Date: ") (by decide)).mp same)
  rw [sipDateExtractCb, if_neg (by omega), if_neg other]

theorem sipDateExtractCb_found (inside : idx + 7 ≤ maxLen) (found : MatchesAt datePattern scan idx) :
    sipDateExtractCb scan maxLen idx ctx =
      ({ ctx with dateNumeric := dateDigits (slice scan (idx + 6) (min (idx + 48) maxLen)) ctx.dateNumeric }, true) := by
  have same : slice scan idx (idx + 6) = ascii "Date: " := (slice_eq_iff (ascii "Date: ") (by decide)).mpr found
  rw [sipDateExtractCb, if_neg (by omega), if_pos same]

theorem matchesAt_token : MatchesAt tokenPattern scan idx ↔ byteAt scan idx = 0x7A ∧ byteAt scan (idx + 7) = 0x2D := by
  rw [byteAt_eq_iff _ _ (by decide), byteAt_eq_iff _ _ (by decide)]
  constructor
  · intro found
    exact ⟨found 0 0x7A rfl, found 7 0x2D rfl⟩
  · rintro ⟨first, last⟩ k c expected
    match k, expected with
    | 0, expected =>
        cases expected
        exact first
    | 7, expected =>
        cases expected
        exact last
    | 1, expected | 2, expected | 3, expected | 4, expected | 5, expected | 6, expected => cases expected
    | k + 8, expected => simp [tokenPattern] at expected

theorem sipAuthScanCb_eq (inside : idx < maxLen) (none : ctx.authToken = 0) (quiet : ¬MatchesAt tokenPattern scan idx) :
    sipAuthScanCb scan maxLen idx ctx = (ctx, false) := by
  rw [matchesAt_token] at quiet
  rw [sipAuthScanCb, if_neg (by simpa using none), if_neg (by omega), if_neg quiet]

theorem sipAuthScanCb_found (inside : idx < maxLen) (none : ctx.authToken = 0) (found : MatchesAt tokenPattern scan idx) :
    sipAuthScanCb scan maxLen idx ctx =
      ({ ctx with authToken := ((List.range 8).map fun j => byteAt scan (idx + 8 + j)).foldl hexNibble 0 }, true) := by
  rw [matchesAt_token] at found
  rw [sipAuthScanCb, if_neg (by simpa using none), if_neg (by omega), if_pos found]

theorem sipMarkerScanCb_eq (inside : idx + 9 ≤ maxLen) (none : ctx.result = 0) (quiet : ¬MatchesAt markerPattern scan idx) :
    sipMarkerScanCb scan maxLen idx ctx = (ctx, false) := by
  have other : slice scan idx (idx + 9) ≠ sipMarker := fun same =>
    quiet ((slice_eq_iff sipMarker (by decide)).mp same)
  rw [sipMarkerScanCb, if_neg (by simpa using none), if_neg (by omega), if_neg other]

theorem sipMarkerScanCb_found (inside : idx + 9 ≤ maxLen) (none : ctx.result = 0) (found : MatchesAt markerPattern scan idx) :
    sipMarkerScanCb scan maxLen idx ctx = ({ ctx with result := idx + 9 }, true) := by
  have same : slice scan idx (idx + 9) = sipMarker := (slice_eq_iff sipMarker (by decide)).mpr found
  rw [sipMarkerScanCb, if_neg (by simpa using none), if_neg (by omega), if_pos same]

theorem dateLoop_keeps (scan : Buf) (maxLen : Nat) (ctx : SipScan) :
    (bpfLoop 512 (sipDateExtractCb scan maxLen) ctx).authToken = ctx.authToken ∧
      (bpfLoop 512 (sipDateExtractCb scan maxLen) ctx).result = ctx.result := by
  refine bpfLoop_invariant (P := fun later : SipScan => later.authToken = ctx.authToken ∧ later.result = ctx.result)
    (fun i later same => ?_) 512 ⟨rfl, rfl⟩
  unfold sipDateExtractCb
  split_ifs <;> exact same

theorem authLoop_keeps (scan : Buf) (maxLen : Nat) (ctx : SipScan) :
    (bpfLoop 480 (sipAuthScanCb scan maxLen) ctx).dateNumeric = ctx.dateNumeric ∧
      (bpfLoop 480 (sipAuthScanCb scan maxLen) ctx).result = ctx.result := by
  refine bpfLoop_invariant (P := fun later : SipScan => later.dateNumeric = ctx.dateNumeric ∧ later.result = ctx.result)
    (fun i later same => ?_) 480 ⟨rfl, rfl⟩
  unfold sipAuthScanCb
  split_ifs <;> exact same

theorem sipScan_result (scan : Buf) (maxLen : Nat) : (sipScan scan maxLen).result = 0 := by
  unfold sipScan
  dsimp only
  rw [(authLoop_keeps _ _ _).2, (dateLoop_keeps _ _ _).2]

theorem dateLoop_first (ctx : SipScan) (first : ∀ i, i < idx → ¬MatchesAt datePattern scan i)
    (here : MatchesAt datePattern scan idx) (inside : idx + 7 ≤ maxLen) (reached : idx < 512) :
    bpfLoop 512 (sipDateExtractCb scan maxLen) ctx =
      { ctx with dateNumeric := dateDigits (slice scan (idx + 6) (min (idx + 48) maxLen)) ctx.dateNumeric } :=
  bpfLoop_stops (fun i before => sipDateExtractCb_eq (by omega) (first i before)) (sipDateExtractCb_found inside here) reached

theorem authLoop_first (none : ctx.authToken = 0) (first : ∀ i, i < idx → ¬MatchesAt tokenPattern scan i)
    (here : MatchesAt tokenPattern scan idx) (inside : idx < maxLen) (whole : idx + 16 ≤ scan.length) (reached : idx < 480) :
    bpfLoop 480 (sipAuthScanCb scan maxLen) ctx =
      { ctx with authToken := (slice scan (idx + 8) (idx + 16)).foldl hexNibble 0 } := by
  have token : ((List.range 8).map fun j => byteAt scan (idx + 8 + j)) = slice scan (idx + 8) (idx + 16) :=
    map_byteAt scan (idx + 8) 8 whole
  rw [← token]
  exact bpfLoop_stops (fun i before => sipAuthScanCb_eq (by omega) none (first i before))
    (sipAuthScanCb_found inside none here) reached

theorem markerLoop_first (none : ctx.result = 0) (first : ∀ i, i < idx → ¬MatchesAt markerPattern scan i)
    (here : MatchesAt markerPattern scan idx) (inside : idx + 9 ≤ maxLen) (reached : idx < 1024) :
    bpfLoop 1024 (sipMarkerScanCb scan maxLen) ctx = { ctx with result := idx + 9 } :=
  bpfLoop_stops (fun i before => sipMarkerScanCb_eq (by omega) none (first i before))
    (sipMarkerScanCb_found inside none here) reached

end Callbacks

theorem length_sni (cfg : GutConfig) : cfg.sni.length ≤ 32 := by
  simp only [GutConfig.sni, List.length_take, Vector.length_toList]
  omega

def viaStart (cfg : GutConfig) (wgType : UInt8) (wgLen : Nat) : Buf :=
  sipStartLine cfg wgType wgLen ++ (ascii "Via: SIP/2.0/UDP " ++ (cfg.sni ++ ascii ";branch="))

def dateText (t : CivilTime) : Buf :=
  ascii (Sip.dayNames.getD t.dow "Sun") ++ (ascii ", " ++ (digits2 t.d ++ (ascii " " ++
    (ascii (Sip.monthNames.getD ((t.m - 1) % 12) "Dec") ++ (ascii " " ++ (digits4 t.y ++ (ascii " " ++ (digits2 t.hour ++
      (ascii ":" ++ (digits2 t.min ++ (ascii ":" ++ (digits2 t.sec ++ (ascii "." ++ (digits6 t.us ++ ascii " GMT"))))))))))))))

def branchLine (cfg : GutConfig) (t : CivilTime) : Buf :=
  ascii "z9hG4bK-" ++ (hex8 (sipAuthToken cfg t) ++ ascii "\r\n")

def sdpStart : Buf := ascii "\r\nContent-Type: application/sdp\r\n\r\nv=0\r\nm=audio 0 RTP/AVP 0\r\n"

theorem writeSipHeader_eq (cfg : GutConfig) (wgType : UInt8) (wgLen taiNs : Nat) :
    writeSipHeader cfg wgType wgLen taiNs =
      viaStart cfg wgType wgLen ++ (branchLine cfg (civilTime taiNs) ++ (ascii "Date: " ++
        (dateText (civilTime taiNs) ++ (sdpStart ++ sipMarker)))) := by
  have branch : ascii ";branch=z9hG4bK-" = ascii ";branch=" ++ ascii "z9hG4bK-" := by decide
  have gmt : ascii " GMT\r\n" = ascii " GMT" ++ ascii "\r\n" := by decide
  have body : sdpStart ++ sipMarker =
      ascii "\r\n" ++ (ascii "Content-Type: application/sdp\r\n\r\n" ++ ascii "v=0\r\nm=audio 0 RTP/AVP 0\r\na=fmtp:0 ") := by
    decide
  unfold writeSipHeader viaStart branchLine
  rw [body]
  unfold sipDateLine dateText
  simp only [branch, gmt, List.append_assoc]

def viaTexts : List Buf :=
  [ascii "REGISTER sip:", ascii "OPTIONS sip:5060@", ascii "MESSAGE sip:5060@", ascii "SIP/2.0\r\n",
    ascii "SIP/2.0 200 OK\r\n" ++ [0x00], ascii "SIP/2.0 401 Unauthorized\r\n" ++ ascii "Via: SIP/2.0/UDP ",
    ascii "Via: SIP/2.0/UDP ", ascii ";branch="]

section Quiet

variable {p : Pattern} {cfg : GutConfig} {wgType : UInt8} {wgLen k : Nat} {c : UInt8} {rest : Buf}

theorem quiet_viaStart (last : p[k]? = some (some c)) (ends : p.length ≤ k + 1) (short : k ≤ 8)
    (final : c = 0x20 ∨ c = 0x2D) (fixed : viaTexts.all (Quiet.differs p) = true)
    (named : Quiet p (nameText wgType cfg.sni) []) : Quiet p (viaStart cfg wgType wgLen) rest := by
  have text (t : Buf) (member : t ∈ viaTexts) (rest : Buf) : Quiet p t rest :=
    Quiet.of_differs (List.all_eq_true.mp fixed t member)
  have alone : Quiet p cfg.sni [] := by
    unfold nameText at named
    split_ifs at named
    · exact named
    · exact (Quiet.append_iff.mp named).1.alone
  have request (asks : ¬(wgType = 2 ∨ wgType = 3)) (rest : Buf) : Quiet p (cfg.sni ++ ascii " SIP/2.0\r\n") rest := by
    rw [nameText, if_neg asks] at named
    have split : cfg.sni ++ ascii " SIP/2.0\r\n" = (cfg.sni ++ [0x20]) ++ ascii "SIP/2.0\r\n" := by
      rw [List.append_assoc]
      rfl
    rw [split]
    refine .append (.extend k c named last ends (not_mem_take_append (Nat.le_trans short (by decide)) ?_))
      (text _ (by simp [viaTexts]) rest)
    rcases final with rfl | rfl <;> decide
  have via (line : Buf) (quiet : ∀ rest, Quiet p line rest) (rest : Buf) : Quiet p (line ++ ascii "Via: SIP/2.0/UDP ") rest :=
    .append (quiet _) (text _ (by simp [viaTexts]) rest)
  have line (rest : Buf) : Quiet p (sipStartLine cfg wgType wgLen ++ ascii "Via: SIP/2.0/UDP ") rest := by
    unfold sipStartLine
    split_ifs with initiation response reply keepalive
    · refine via _ (fun rest => ?_) rest
      rw [List.append_assoc]
      exact .append (text _ (by simp [viaTexts]) _) (request (by simp [initiation]) rest)
    · exact via _ (text _ (by simp [viaTexts])) rest
    -- there is a `z` in the status line, and what follows it is in the next line
    · exact text _ (by simp [viaTexts]) rest
    · refine via _ (fun rest => ?_) rest
      rw [List.append_assoc]
      exact .append (text _ (by simp [viaTexts]) _) (request (by simp [response, reply]) rest)
    · refine via _ (fun rest => ?_) rest
      rw [List.append_assoc]
      exact .append (text _ (by simp [viaTexts]) _) (request (by simp [response, reply]) rest)
  have name : Quiet p cfg.sni (ascii ";branch=" ++ rest) := by
    refine .extend k c alone last ends (not_mem_take_append (Nat.le_trans short (by decide)) ?_)
    rcases final with rfl | rfl <;> decide
  rw [viaStart, ← List.append_assoc]
  exact .append (line _) (.append name (text _ (by simp [viaTexts]) rest))

end Quiet

theorem hexNibble_hexDigit (a n : Nat) (digit : n < 16) (small : 16 * a + n < 2 ^ 32) :
    hexNibble (UInt32.ofNat a) (hexDigit n) = UInt32.ofNat (16 * a + n) := by
  have read (tok : UInt32) : hexNibble tok (hexDigit n) = (tok <<< 4) ||| UInt32.ofNat n := by
    interval_cases n <;> rfl
  rw [read]
  apply UInt32.toNat_inj.mp
  have shifted : 16 * a + n = a <<< 4 ||| n := by
    rw [← Nat.shiftLeft_add_eq_or_of_lt (by omega), Nat.shiftLeft_eq]
    omega
  have four : (4 : UInt32).toNat % 32 = 4 := by decide
  rw [UInt32.toNat_or, UInt32.toNat_shiftLeft, four, UInt32.toNat_ofNat', UInt32.toNat_ofNat', UInt32.toNat_ofNat',
    Nat.mod_eq_of_lt (by omega : a < 2 ^ 32), Nat.mod_eq_of_lt (by omega : n < 2 ^ 32), Nat.mod_eq_of_lt small, shifted,
    Nat.mod_eq_of_lt (by rw [Nat.shiftLeft_eq]; omega)]

theorem foldl_hexNibble (x : UInt32) : (hex8 x).foldl hexNibble 0 = x := by
  have bounded := x.toNat_lt
  -- after `n` digits the token is the number without its last `8 - n` digits
  have read (n : Nat) (inside : n ≤ 8) :
      ((List.range n).map fun i => hexDigit (x.toNat / 16 ^ (7 - i) % 16)).foldl hexNibble 0 =
        UInt32.ofNat (x.toNat / 16 ^ (8 - n)) := by
    induction n with
    | zero =>
        rw [Nat.div_eq_of_lt (by omega)]
        rfl
    | succ n ih =>
        have next : x.toNat / 16 ^ (8 - n) = x.toNat / 16 ^ (7 - n) / 16 := by
          rw [Nat.div_div_eq_div_mul, ← Nat.pow_succ, show (7 - n).succ = 8 - n by omega]
        have same : 8 - (n + 1) = 7 - n := by omega
        have small := Nat.div_le_self x.toNat (16 ^ (7 - n))
        rw [List.range_succ, List.map_append, List.foldl_append, ih (by omega), List.map_singleton, List.foldl_cons,
          List.foldl_nil, hexNibble_hexDigit _ _ (Nat.mod_lt _ (by decide)) (by omega), next, same]
        congr 1
        omega
  rw [hex8, read 8 (Nat.le_refl 8)]
  simp

section Date

def dateStep (n : UInt64) (b : UInt8) : UInt64 := if 0x30 ≤ b ∧ b ≤ 0x39 then n * 10 + (b - 0x30).toUInt64 else n

theorem dateStep_digit (a k : Nat) (small : k < 10) : dateStep (UInt64.ofNat a) (digit k) = UInt64.ofNat (10 * a + k) := by
  have read (n : UInt64) : dateStep n (digit k) = n * 10 + UInt64.ofNat k := by
    interval_cases k <;> rfl
  rw [read, UInt64.ofNat_add, UInt64.ofNat_mul, UInt64.mul_comm]
  rfl

theorem foldl_digits2 (a k : Nat) (small : k < 100) :
    (digits2 k).foldl dateStep (UInt64.ofNat a) = UInt64.ofNat (100 * a + k) := by
  simp only [digits2, List.foldl_cons, List.foldl_nil]
  rw [dateStep_digit _ _ (by omega), dateStep_digit _ _ (by omega)]
  congr 1
  omega

theorem foldl_digits4 (a k : Nat) (small : k < 10000) :
    (digits4 k).foldl dateStep (UInt64.ofNat a) = UInt64.ofNat (10000 * a + k) := by
  simp only [digits4, List.foldl_cons, List.foldl_nil]
  rw [dateStep_digit _ _ (by omega), dateStep_digit _ _ (by omega), dateStep_digit _ _ (by omega),
    dateStep_digit _ _ (by omega)]
  congr 1
  omega

theorem foldl_digits6 (a k : Nat) (small : k < 1000000) :
    (digits6 k).foldl dateStep (UInt64.ofNat a) = UInt64.ofNat (1000000 * a + k) := by
  simp only [digits6, List.foldl_cons, List.foldl_nil]
  rw [dateStep_digit _ _ (by omega), dateStep_digit _ _ (by omega), dateStep_digit _ _ (by omega),
    dateStep_digit _ _ (by omega), dateStep_digit _ _ (by omega), dateStep_digit _ _ (by omega)]
  congr 1
  omega

theorem foldl_dateStep_text {text : Buf} (n : UInt64) (plain : text.all (fun b => b < 0x30 || 0x39 < b) = true) :
    text.foldl dateStep n = n := by
  induction text with
  | nil => rfl
  | cons b text ih =>
      rw [List.all_cons, Bool.and_eq_true, Bool.or_eq_true, decide_eq_true_iff, decide_eq_true_iff] at plain
      have other : ¬(0x30 ≤ b ∧ b ≤ 0x39) := by
        rintro ⟨low, high⟩
        rcases plain.1 with below | above
        · exact absurd below (UInt8.not_lt.mpr low)
        · exact absurd above (UInt8.not_lt.mpr high)
      rw [List.foldl_cons, dateStep, if_neg other, ih plain.2]

structure CivilTime.Fits (t : CivilTime) : Prop where
  y : t.y < 10000
  d : t.d < 100
  hour : t.hour < 100
  min : t.min < 100
  sec : t.sec < 100
  us : t.us < 1000000

theorem civilTime_fits {taiNs : Nat} (year : (civilTime taiNs).y < 10000) : (civilTime taiNs).Fits := by
  refine ⟨year, ?_, ?_, ?_, ?_, ?_⟩ <;> simp only [civilTime] <;> omega

theorem foldl_dateText {t : CivilTime} (fits : t.Fits) :
    (dateText t).foldl dateStep 0 = UInt64.ofNat (dateNumeric t) := by
  have day (n : UInt64) : (ascii (Sip.dayNames.getD t.dow "Sun")).foldl dateStep n = n :=
    foldl_dateStep_text n (ascii_getD _ _ (fun text => text.all (fun b => b < 0x30 || 0x39 < b)) (by decide) _)
  have month (n : UInt64) : (ascii (Sip.monthNames.getD ((t.m - 1) % 12) "Dec")).foldl dateStep n = n :=
    foldl_dateStep_text n (ascii_getD _ _ (fun text => text.all (fun b => b < 0x30 || 0x39 < b)) (by decide) _)
  have text (n : UInt64) (t : Buf) (plain : t ∈ [ascii ", ", ascii " ", ascii ":", ascii ".", ascii " GMT"]) :
      t.foldl dateStep n = n := by
    apply foldl_dateStep_text
    revert t
    decide
  have zero : (0 : UInt64) = UInt64.ofNat 0 := rfl
  simp only [dateText, List.foldl_append]
  simp (disch := simp) only [day, month, text]
  rw [zero, foldl_digits2 _ _ fits.d, foldl_digits4 _ _ fits.y, foldl_digits2 _ _ fits.hour, foldl_digits2 _ _ fits.min,
    foldl_digits2 _ _ fits.sec, foldl_digits6 _ _ fits.us, dateNumeric, UInt64.ofNat_mod_size]
  congr 1
  omega

theorem length_dateText (t : CivilTime) : (dateText t).length = 36 := by
  have day := ascii_getD Sip.dayNames "Sun" (fun text => text.length == 3) (by decide) t.dow
  have month := ascii_getD Sip.monthNames "Dec" (fun text => text.length == 3) (by decide)
    ((t.m - 1) % 12)
  have fixed : (ascii ", ").length = 2 ∧ (ascii " ").length = 1 ∧ (ascii ":").length = 1 ∧ (ascii ".").length = 1 ∧
      (ascii " GMT").length = 4 := by
    decide
  rw [beq_iff_eq] at day month
  simp only [dateText, List.length_append, day, month, fixed, digits2, digits4, digits6, List.length_cons, List.length_nil]

def plainByte (b : UInt8) : Bool := b != 0x0D && b != 0x0A && b != 0x3D

theorem plainByte_digit {k : Nat} (small : k < 10) : plainByte (digit k) = true := by
  interval_cases k <;> rfl

theorem plainByte_dateText {t : CivilTime} (fits : t.Fits) : (dateText t).all plainByte = true := by
  obtain ⟨y, d, hour, min, sec, us⟩ := fits
  have day := ascii_getD Sip.dayNames "Sun" (fun text => text.all plainByte) (by decide) t.dow
  have month := ascii_getD Sip.monthNames "Dec" (fun text => text.all plainByte) (by decide)
    ((t.m - 1) % 12)
  have fixed : (ascii ", ").all plainByte = true ∧ (ascii " ").all plainByte = true ∧ (ascii ":").all plainByte = true ∧
      (ascii ".").all plainByte = true ∧ (ascii " GMT").all plainByte = true := by
    decide
  simp only [dateText, List.all_append, day, month, fixed, digits2, digits4, digits6, List.all_cons, List.all_nil,
    Bool.and_true, Bool.true_and, Bool.and_eq_true]
  refine ⟨⟨?_, ?_⟩, ⟨?_, ?_, ?_, ?_⟩, ⟨?_, ?_⟩, ⟨?_, ?_⟩, ⟨?_, ?_⟩, ?_, ?_, ?_, ?_, ?_, ?_⟩ <;>
    exact plainByte_digit (by omega)

theorem dateDigits_line {t : CivilTime} (fits : t.Fits) (rest : Buf) :
    dateDigits (dateText t ++ 0x0D :: rest) 0 = UInt64.ofNat (dateNumeric t) := by
  have plain := List.all_eq_true.mp (plainByte_dateText fits)
  have line : (dateText t ++ 0x0D :: rest).takeWhile (fun b => b ≠ 0x0D ∧ b ≠ 0x0A) = dateText t := by
    rw [List.takeWhile_append_of_pos]
    · simp
    · intro b member
      have byte := plain b member
      simp only [plainByte, Bool.and_eq_true, bne_iff_ne] at byte
      simp [byte]
  rw [dateDigits, line]
  exact foldl_dateText fits

end Date

section Header

variable {cfg : GutConfig} {wgType : UInt8} {wgLen taiNs maxLen : Nat} {rest : Buf}

theorem length_viaStart (cfg : GutConfig) (wgType : UInt8) (wgLen : Nat) : (viaStart cfg wgType wgLen).length ≤ 116 := by
  have name := length_sni cfg
  have via : (ascii "Via: SIP/2.0/UDP ").length = 17 ∧ (ascii ";branch=").length = 8 := by decide
  have line : (sipStartLine cfg wgType wgLen).length ≤ 59 := by
    have fixed : (ascii "REGISTER sip:").length = 13 ∧ (ascii " SIP/2.0\r\n").length = 10 ∧
        (ascii "SIP/2.0 200 OK\r\n" ++ [0x00]).length = 17 ∧ (ascii "SIP/2.0 401 Unauthorized\r\n").length = 26 ∧
        (ascii "OPTIONS sip:5060@").length = 17 ∧ (ascii "MESSAGE sip:5060@").length = 17 := by
      decide
    unfold sipStartLine
    split_ifs <;> simp only [List.length_append] at * <;> omega
  simp only [viaStart, List.length_append]
  omega

theorem length_branchLine (cfg : GutConfig) (t : CivilTime) : (branchLine cfg t).length = 18 := by
  have fixed : (ascii "z9hG4bK-").length = 8 ∧ (ascii "\r\n").length = 2 := by decide
  simp only [branchLine, List.length_append, length_hex8, fixed]

theorem length_writeSipHeader (cfg : GutConfig) (wgType : UInt8) (wgLen taiNs : Nat) :
    (writeSipHeader cfg wgType wgLen taiNs).length = (viaStart cfg wgType wgLen).length + 130 := by
  have fixed : (ascii "Date: ").length = 6 ∧ sdpStart.length = 61 ∧ sipMarker.length = 9 := by decide
  rw [writeSipHeader_eq]
  simp only [List.length_append, length_branchLine, length_dateText, fixed]

theorem not_mem_branchLine {t : CivilTime} {c : UInt8} (hex : c ∉ ascii "0123456789abcdef")
    (fixed : c ∉ ascii "z9hG4bK-\r\n") : c ∉ branchLine cfg t := by
  have split : ascii "z9hG4bK-\r\n" = ascii "z9hG4bK-" ++ ascii "\r\n" := by decide
  simp only [split, List.mem_append, not_or] at fixed
  simp only [branchLine, List.mem_append, not_or]
  exact ⟨fixed.1, fun member => hex (mem_hex8 member), fixed.2⟩

theorem quiet_date (named : Unambiguous (nameText wgType cfg.sni)) :
    Quiet datePattern (viaStart cfg wgType wgLen ++ branchLine cfg (civilTime taiNs)) rest := by
  refine .append (quiet_viaStart (k := 5) (c := 0x20) (by decide) (by decide) (by decide) (.inl rfl) (by decide)
    named.date) (.of_absent 0 0x44 (by decide) (not_mem_branchLine (by decide) (by decide)) (by simp))

theorem quiet_token (named : Unambiguous (nameText wgType cfg.sni)) : Quiet tokenPattern (viaStart cfg wgType wgLen) rest :=
  quiet_viaStart (k := 7) (c := 0x2D) (by decide) (by decide) (by decide) (.inr rfl) (by decide) named.token

theorem quiet_marker (wgType : UInt8) (wgLen : Nat) (rest : Buf) (named : Unambiguous (nameText wgType cfg.sni)) (year : (civilTime taiNs).y < 10000) :
    Quiet markerPattern (viaStart cfg wgType wgLen ++ (branchLine cfg (civilTime taiNs) ++ (ascii "Date: " ++
      (dateText (civilTime taiNs) ++ sdpStart)))) rest := by
  have via : Quiet markerPattern (viaStart cfg wgType wgLen) (branchLine cfg (civilTime taiNs) ++ (ascii "Date: " ++
      (dateText (civilTime taiNs) ++ sdpStart)) ++ rest) :=
    quiet_viaStart (k := 8) (c := 0x20) (by decide) (by decide) (by decide) (.inl rfl) (by decide) named.marker
  have date : (0x3D : UInt8) ∉ dateText (civilTime taiNs) := fun member => by
    have plain := List.all_eq_true.mp (plainByte_dateText (civilTime_fits year)) _ member
    simp [plainByte] at plain
  refine .append via (.append ?_ (.append (.of_differs (by decide)) (.append ?_ (.of_differs (by decide)))))
  · rw [List.append_assoc]
    exact .of_absent 1 0x3D (by decide) (not_mem_branchLine (by decide) (by decide))
      (not_mem_take_append (by decide) (by decide))
  · refine .of_absent 1 0x3D (by decide) date ?_
    rw [List.take_append_of_le_length (by decide)]
    decide

theorem dateLoop_header (named : Unambiguous (nameText wgType cfg.sni)) (year : (civilTime taiNs).y < 10000)
    (inside : (writeSipHeader cfg wgType wgLen taiNs).length ≤ maxLen) :
    bpfLoop 512 (sipDateExtractCb (writeSipHeader cfg wgType wgLen taiNs ++ rest) maxLen)
        { result := 0, dateNumeric := 0, authToken := 0 } =
      { result := 0, dateNumeric := UInt64.ofNat (dateNumeric (civilTime taiNs)), authToken := 0 } := by
  have short := length_viaStart cfg wgType wgLen
  have branch := length_branchLine cfg (civilTime taiNs)
  have date := length_dateText (civilTime taiNs)
  rw [length_writeSipHeader] at inside
  generalize front : viaStart cfg wgType wgLen ++ branchLine cfg (civilTime taiNs) = pre
  have width : pre.length = (viaStart cfg wgType wgLen).length + 18 := by rw [← front, List.length_append, branch]
  have split : writeSipHeader cfg wgType wgLen taiNs ++ rest =
      pre ++ (ascii "Date: " ++ (dateText (civilTime taiNs) ++ (0x0D :: sdpStart.tail ++ (sipMarker ++ rest)))) := by
    rw [writeSipHeader_eq, ← front]
    simp only [List.append_assoc]
    rfl
  have line : slice (pre ++ (ascii "Date: " ++ (dateText (civilTime taiNs) ++ (0x0D :: sdpStart.tail ++ (sipMarker ++ rest)))))
      (pre.length + 6) (min (pre.length + 48) maxLen) =
        dateText (civilTime taiNs) ++ 0x0D :: ((sdpStart.tail ++ (sipMarker ++ rest)).take 5) := by
    have six : (ascii "Date: ").length = 6 := by decide
    have until48 : min (pre.length + 48) maxLen = pre.length + 48 := by omega
    have drops := @List.drop_left _ (pre ++ ascii "Date: ")
      (dateText (civilTime taiNs) ++ (0x0D :: sdpStart.tail ++ (sipMarker ++ rest)))
    rw [List.length_append, six, List.append_assoc] at drops
    rw [slice, until48, drops, show pre.length + 48 - (pre.length + 6) = 36 + 6 by omega, ← date,
      List.take_length_add_append]
    rfl
  have quiet (rest : Buf) : Quiet datePattern pre rest := front ▸ quiet_date named
  rw [split, dateLoop_first _ (quiet _) (matchesAt_next _ _ _) (by omega)
    (by omega), line, dateDigits_line (civilTime_fits year)]

theorem authLoop_header {n : UInt64} (named : Unambiguous (nameText wgType cfg.sni))
    (inside : (writeSipHeader cfg wgType wgLen taiNs).length ≤ maxLen) :
    bpfLoop 480 (sipAuthScanCb (writeSipHeader cfg wgType wgLen taiNs ++ rest) maxLen)
        { result := 0, dateNumeric := n, authToken := 0 } =
      { result := 0, dateNumeric := n, authToken := sipAuthToken cfg (civilTime taiNs) } := by
  have short := length_viaStart cfg wgType wgLen
  rw [length_writeSipHeader] at inside
  generalize front : viaStart cfg wgType wgLen = pre at short inside
  obtain ⟨behind, split⟩ : ∃ behind, writeSipHeader cfg wgType wgLen taiNs ++ rest =
      pre ++ (ascii "z9hG4bK-" ++ (hex8 (sipAuthToken cfg (civilTime taiNs)) ++ behind)) := by
    rw [writeSipHeader_eq, front, branchLine]
    simp only [List.append_assoc]
    exact ⟨_, rfl⟩
  rw [split]
  have eight : (ascii "z9hG4bK-").length = 8 := by decide
  have found : MatchesAt tokenPattern
      (pre ++ (ascii "z9hG4bK-" ++ (hex8 (sipAuthToken cfg (civilTime taiNs)) ++ behind))) (pre.length + 0) := by
    rw [matchesAt_append_right, matchesAt_token, byteAt_append_left _ _ _ (by decide), byteAt_append_left _ _ _ (by decide)]
    decide
  rw [Nat.add_zero] at found
  have token := slice_middle (pre ++ ascii "z9hG4bK-") (hex8 (sipAuthToken cfg (civilTime taiNs))) behind 8
    (length_hex8 _)
  rw [List.length_append, eight, List.append_assoc] at token
  have quiet (rest : Buf) : Quiet tokenPattern pre rest := front ▸ quiet_token named
  rw [authLoop_first rfl (quiet _) found (by omega)
    (by simp [length_hex8, eight]; omega) (by omega), token, foldl_hexNibble]

theorem sipScan_header (named : Unambiguous (nameText wgType cfg.sni)) (year : (civilTime taiNs).y < 10000)
    (inside : (writeSipHeader cfg wgType wgLen taiNs).length ≤ maxLen) :
    sipScan (writeSipHeader cfg wgType wgLen taiNs ++ rest) maxLen =
      { result := 0, dateNumeric := UInt64.ofNat (dateNumeric (civilTime taiNs))
        authToken := sipAuthToken cfg (civilTime taiNs) } := by
  unfold sipScan
  dsimp only
  rw [dateLoop_header named year inside, authLoop_header named inside]

theorem sipMarkerScan_header (named : Unambiguous (nameText wgType cfg.sni)) (year : (civilTime taiNs).y < 10000)
    (inside : (writeSipHeader cfg wgType wgLen taiNs).length ≤ maxLen) :
    sipMarkerScan (writeSipHeader cfg wgType wgLen taiNs ++ rest) maxLen =
      (writeSipHeader cfg wgType wgLen taiNs).length := by
  have short := length_viaStart cfg wgType wgLen
  have total := length_writeSipHeader cfg wgType wgLen taiNs
  unfold sipMarkerScan
  rw [sipScan_header named year inside]
  have quiet := quiet_marker wgType wgLen (sipMarker ++ rest) named year
  generalize front : viaStart cfg wgType wgLen ++ (branchLine cfg (civilTime taiNs) ++ (ascii "Date: " ++
    (dateText (civilTime taiNs) ++ sdpStart))) = pre at quiet
  have nine : sipMarker.length = 9 := by decide
  have header : writeSipHeader cfg wgType wgLen taiNs = pre ++ sipMarker := by
    rw [writeSipHeader_eq, ← front]
    simp only [List.append_assoc]
  have width : (writeSipHeader cfg wgType wgLen taiNs).length = pre.length + 9 := by rw [header, List.length_append, nine]
  rw [width]
  rw [width] at inside total
  rw [header, List.append_assoc]
  rw [markerLoop_first rfl quiet (matchesAt_next _ _ _) (by omega)
    (by omega)]

end Header

section Domain

variable {cfg : GutConfig} {wgType : UInt8} {wgLen : Nat}

theorem viaStart_split (cfg : GutConfig) (wgType : UInt8) (wgLen : Nat) :
    ∃ front back, viaStart cfg wgType wgLen = front ++ (nameText wgType cfg.sni ++ back) ∧ 8 ≤ back.length := by
  have branch : (ascii ";branch=").length = 8 := by decide
  unfold viaStart nameText
  by_cases answer : wgType = 2 ∨ wgType = 3
  · rw [if_pos answer, ← List.append_assoc]
    exact ⟨_, ascii ";branch=", rfl, Nat.le_of_eq branch.symm⟩
  · obtain ⟨start, line⟩ : ∃ start, sipStartLine cfg wgType wgLen = start ++ cfg.sni ++ ascii " SIP/2.0\r\n" := by
      unfold sipStartLine
      rw [if_neg (not_or.mp answer).1, if_neg (not_or.mp answer).2]
      split_ifs <;> exact ⟨_, rfl⟩
    have space : ascii " SIP/2.0\r\n" = [0x20] ++ ascii "SIP/2.0\r\n" := by decide
    rw [if_neg answer, line, space]
    simp only [List.append_assoc]
    refine ⟨start, _, rfl, ?_⟩
    simp only [List.length_append, branch]
    omega

theorem first_match {p : Pattern} {k : Nat} {c : UInt8} (last : p[k]? = some (some c)) (ends : p.length = k + 1)
    (ambiguous : ¬Quiet p (nameText wgType cfg.sni) []) :
    ∃ j, j + p.length + 8 ≤ (viaStart cfg wgType wgLen).length ∧ ∀ rest, MatchesAt p (viaStart cfg wgType wgLen ++ rest) j ∧
      ∀ i, i < j → ¬MatchesAt p (viaStart cfg wgType wgLen ++ rest) i := by
  obtain ⟨front, back, split, long⟩ := viaStart_split cfg wgType wgLen
  simp only [Quiet, List.append_nil, not_forall, not_not] at ambiguous
  obtain ⟨i, -, found⟩ := ambiguous
  obtain ⟨bounded, -⟩ := List.getElem?_eq_some_iff.mp (found k c last)
  have total : (viaStart cfg wgType wgLen).length = front.length + ((nameText wgType cfg.sni).length + back.length) := by
    rw [split, List.length_append, List.length_append]
  have somewhere : MatchesAt p (viaStart cfg wgType wgLen) (front.length + i) := by
    rw [split, matchesAt_append_right]
    exact found.append _
  classical
  let j := Nat.find ⟨_, somewhere⟩
  have here : MatchesAt p (viaStart cfg wgType wgLen) j := Nat.find_spec ⟨_, somewhere⟩
  have early : j ≤ front.length + i := Nat.find_min' ⟨_, somewhere⟩ somewhere
  refine ⟨j, by omega, fun rest => ⟨here.append rest, fun i before there => ?_⟩⟩
  exact Nat.find_min ⟨_, somewhere⟩ before (there.left (by omega))

theorem dateDigits_take {line : Buf} (ended : 0x0D ∈ line) (rest : Buf) (n : Nat) :
    dateDigits ((line ++ rest).take n) 0 = dateDigits (line.take n) 0 := by
  by_cases short : line.length ≤ n
  · have stops : (line.takeWhile fun b => b ≠ 0x0D ∧ b ≠ 0x0A).length ≠ line.length := by
      intro same
      rw [← (List.takeWhile_prefix _).eq_of_length same] at ended
      simpa using List.all_eq_true.mp List.all_takeWhile _ ended
    rw [List.take_append, List.take_of_length_le short, dateDigits, dateDigits, List.takeWhile_append, if_neg stops]
  · rw [List.take_append_of_le_length (by omega)]

theorem date_misled (ambiguous : ¬Quiet datePattern (nameText wgType cfg.sni) []) (t : CivilTime) :
    ∃ n, ∀ rest maxLen, (viaStart cfg wgType wgLen).length + 130 ≤ maxLen →
      (sipScan (viaStart cfg wgType wgLen ++ (branchLine cfg t ++ rest)) maxLen).dateNumeric = n := by
  obtain ⟨j, ends, first⟩ := @first_match cfg wgType wgLen _ 5 0x20 (by decide) (by decide) ambiguous
  have six : datePattern.length = 6 := by decide
  have short := length_viaStart cfg wgType wgLen
  generalize viaStart cfg wgType wgLen = start at *
  have ended : (0x0D : UInt8) ∈ start.drop (j + 6) ++ branchLine cfg t := by
    refine List.mem_append_right _ ?_
    have crlf : (0x0D : UInt8) ∈ ascii "\r\n" := by decide
    simp [branchLine, crlf]
  refine ⟨dateDigits ((start.drop (j + 6) ++ branchLine cfg t).take 42) 0, fun rest maxLen long => ?_⟩
  have line : slice (start ++ (branchLine cfg t ++ rest)) (j + 6) (min (j + 48) maxLen) =
      (start.drop (j + 6) ++ branchLine cfg t ++ rest).take 42 := by
    rw [slice, List.drop_append_of_le_length (by omega), List.append_assoc]
    congr 1
    omega
  unfold sipScan
  dsimp only
  rw [(authLoop_keeps _ _ _).1, dateLoop_first _ (first _).2 (first _).1 (by omega) (by omega)]
  dsimp only
  rw [line, dateDigits_take ended]

theorem token_misled (ambiguous : ¬Quiet tokenPattern (nameText wgType cfg.sni) []) :
    ∃ token, ∀ rest maxLen, (viaStart cfg wgType wgLen).length ≤ maxLen →
      (sipScan (viaStart cfg wgType wgLen ++ rest) maxLen).authToken = token := by
  obtain ⟨j, ends, first⟩ := @first_match cfg wgType wgLen _ 7 0x2D (by decide) (by decide) ambiguous
  have eight : tokenPattern.length = 8 := by decide
  have short := length_viaStart cfg wgType wgLen
  generalize viaStart cfg wgType wgLen = start at *
  refine ⟨(slice start (j + 8) (j + 16)).foldl hexNibble 0, fun rest maxLen long => ?_⟩
  unfold sipScan
  dsimp only
  generalize dated : bpfLoop 512 (sipDateExtractCb (start ++ rest) maxLen) _ = ctx
  have none : ctx.authToken = 0 := by rw [← dated, (dateLoop_keeps _ _ _).1]
  rw [authLoop_first none (first rest).2 (first rest).1 (by omega) (by simp; omega) (by omega),
    slice_append_left _ _ _ _ (by omega)]

theorem marker_misled (ambiguous : ¬Quiet markerPattern (nameText wgType cfg.sni) []) (rest : Buf) {maxLen : Nat}
    (long : (viaStart cfg wgType wgLen).length ≤ maxLen) :
    sipMarkerScan (viaStart cfg wgType wgLen ++ rest) maxLen ≤ (viaStart cfg wgType wgLen).length := by
  obtain ⟨j, ends, first⟩ := @first_match cfg wgType wgLen _ 8 0x20 (by decide) (by decide) ambiguous
  have nine : markerPattern.length = 9 := by decide
  have short := length_viaStart cfg wgType wgLen
  unfold sipMarkerScan
  rw [markerLoop_first (sipScan_result _ _) (first rest).2 (first rest).1 (by omega) (by omega)]
  dsimp only
  omega

theorem window_header (cfg : GutConfig) (wgType : UInt8) (wgLen taiNs : Nat) (payload stale : Buf) :
    (∃ rest, (writeSipHeader cfg wgType wgLen taiNs ++ payload).take 1024 ++ stale =
        viaStart cfg wgType wgLen ++ (branchLine cfg (civilTime taiNs) ++ rest)) ∧
      (viaStart cfg wgType wgLen).length + 130 ≤ min (writeSipHeader cfg wgType wgLen taiNs ++ payload).length 1024 := by
  have short := length_viaStart cfg wgType wgLen
  have total := length_writeSipHeader cfg wgType wgLen taiNs
  constructor
  · rw [List.take_append, List.take_of_length_le (by omega), writeSipHeader_eq]
    simp only [List.append_assoc]
    exact ⟨_, rfl⟩
  · rw [List.length_append]
    omega

end Domain

def Base64Text (text : Buf) : Prop := ∀ b ∈ text, b ∈ b64EncLut ∨ b = 0x3D

structure ReadBack (cfg : GutConfig) (wgType : UInt8) (wgLen taiNs : Nat) (payload stale : Buf) : Prop where
  date : (sipScan ((writeSipHeader cfg wgType wgLen taiNs ++ payload).take 1024 ++ stale)
    (min (writeSipHeader cfg wgType wgLen taiNs ++ payload).length 1024)).dateNumeric =
      UInt64.ofNat (dateNumeric (civilTime taiNs))
  token : (sipScan ((writeSipHeader cfg wgType wgLen taiNs ++ payload).take 1024 ++ stale)
    (min (writeSipHeader cfg wgType wgLen taiNs ++ payload).length 1024)).authToken = sipAuthToken cfg (civilTime taiNs)
  marker : sipMarkerScan ((writeSipHeader cfg wgType wgLen taiNs ++ payload).take 1024 ++ stale)
    (min (writeSipHeader cfg wgType wgLen taiNs ++ payload).length 1024) = (writeSipHeader cfg wgType wgLen taiNs).length
  bounded : (writeSipHeader cfg wgType wgLen taiNs).length ≤ 256
  authentic : sipAuthentic cfg (sipScan ((writeSipHeader cfg wgType wgLen taiNs ++ payload).take 1024 ++ stale)
    (min (writeSipHeader cfg wgType wgLen taiNs ++ payload).length 1024))

def SelfConsistent (domain : Buf) (wgType : UInt8) (wgLen : Nat) : Prop :=
  ∀ (key : Vector UInt8 32) (cfg : GutConfig) (taiNs : Nat) (payload stale : Buf),
    cfg.Keyed key → cfg.sni = domain → 1000 ≤ (civilTime taiNs).y → (civilTime taiNs).y ≤ 9999 →
    sipAuthToken cfg (civilTime taiNs) ≠ 0 → 16 ≤ payload.length → Base64Text payload →
    ReadBack cfg wgType wgLen taiNs payload stale

section Agreement

variable {cfg : GutConfig} {wgType : UInt8} {wgLen taiNs : Nat} {domain payload stale : Buf}

theorem sipAuthToken_eq (cfg : GutConfig) (t : CivilTime) :
    sipHash32 (UInt64.ofNat (dateNumeric t) / 10000).toUInt32 cfg.tokenKey = sipAuthToken cfg t := by
  have small : dateNumeric t < 2 ^ 64 := Nat.mod_lt _ (by decide)
  have same : (UInt64.ofNat (dateNumeric t) / 10000).toUInt32 = UInt32.ofNat (dateNumeric t / 10000) := by
    apply UInt32.toNat_inj.mp
    simp only [UInt64.toNat_toUInt32, UInt64.toNat_div, UInt64.toNat_ofNat', UInt32.toNat_ofNat']
    rw [Nat.mod_eq_of_lt small]
    rfl
  rw [same, sipAuthToken]

theorem readBack (named : Unambiguous (nameText wgType cfg.sni)) (year : (civilTime taiNs).y < 10000)
    (nonzero : sipAuthToken cfg (civilTime taiNs) ≠ 0) : ReadBack cfg wgType wgLen taiNs payload stale := by
  have short := length_viaStart cfg wgType wgLen
  have total := length_writeSipHeader cfg wgType wgLen taiNs
  have split : (writeSipHeader cfg wgType wgLen taiNs ++ payload).take 1024 ++ stale =
      writeSipHeader cfg wgType wgLen taiNs ++
        (payload.take (1024 - (writeSipHeader cfg wgType wgLen taiNs).length) ++ stale) := by
    rw [List.take_append, List.take_of_length_le (by omega), List.append_assoc]
  have inside : (writeSipHeader cfg wgType wgLen taiNs).length ≤
      min (writeSipHeader cfg wgType wgLen taiNs ++ payload).length 1024 := by
    rw [List.length_append]
    omega
  refine ⟨?_, ?_, ?_, by omega, ?_⟩
  · rw [split, sipScan_header named year inside]
  · rw [split, sipScan_header named year inside]
  · rw [split, sipMarkerScan_header named year inside]
  · rw [split, sipScan_header named year inside]
    exact ⟨nonzero, sipAuthToken_eq cfg _⟩

def namedConfig (domain : Buf) : GutConfig :=
  { sampleConfig with sniDomain := Vector.ofFn fun i => byteAt domain i.val, sniDomainLen := UInt8.ofNat domain.length }

theorem namedConfig_sni (short : domain.length ≤ 31) : (namedConfig domain).sni = domain := by
  have length : (UInt8.ofNat domain.length).toNat = domain.length := by simp; omega
  apply ext_byteAt
  · simp only [GutConfig.sni, namedConfig, length, List.length_take, Vector.length_toList]
    omega
  · intro i bounded
    simp only [GutConfig.sni, namedConfig, length, List.length_take, Vector.length_toList] at bounded ⊢
    rw [byteAt_take, if_pos (by omega), byteAt_eq_getElem _ _ (by simp; omega)]
    simp

theorem namedConfig_keyed (domain : Buf) : (namedConfig domain).Keyed sampleKey :=
  ⟨sampleConfig_keyed.init, sampleConfig_keyed.dcid⟩

theorem sipAuthToken_namedConfig (domain : Buf) (t : CivilTime) :
    sipAuthToken (namedConfig domain) t = sipAuthToken sampleConfig t := by
  have init : (namedConfig domain).chachaInit = sampleConfig.chachaInit := by rw [namedConfig]
  rw [sipAuthToken, sipAuthToken, GutConfig.tokenKey, GutConfig.tokenKey, init]

-- the second moment has the token of the first but another date, the third another token
theorem sampleTokens :
    sipAuthToken sampleConfig (civilTime 37000000000) ≠ 0 ∧
      sipAuthToken sampleConfig (civilTime 37000001000) = sipAuthToken sampleConfig (civilTime 37000000000) ∧
      sipAuthToken sampleConfig (civilTime 38000000000) ≠ 0 ∧
      sipAuthToken sampleConfig (civilTime 37000000000) ≠ sipAuthToken sampleConfig (civilTime 38000000000) := by
  decide

theorem sampleDates : UInt64.ofNat (dateNumeric (civilTime 37000000000)) ≠ UInt64.ofNat (dateNumeric (civilTime 37000001000)) := by
  decide

theorem samplePayload : Base64Text (List.replicate 16 0x41) := by
  intro b member
  rw [List.eq_of_mem_replicate member]
  decide

theorem date_unambiguous (short : domain.length ≤ 31)
    (all : ∀ taiNs, (civilTime taiNs).y = 1970 → sipAuthToken sampleConfig (civilTime taiNs) ≠ 0 →
      ReadBack (namedConfig domain) wgType wgLen taiNs (List.replicate 16 0x41) []) :
    Quiet datePattern (nameText wgType domain) [] := by
  obtain ⟨nonzero, same, -⟩ := sampleTokens
  obtain ⟨date, -⟩ := all 37000000000 (by decide) nonzero
  obtain ⟨date', -⟩ := all 37000001000 (by decide) (same ▸ nonzero)
  obtain ⟨⟨rest, split⟩, inside⟩ := window_header (namedConfig domain) wgType wgLen 37000000000 (List.replicate 16 0x41) []
  obtain ⟨⟨rest', split'⟩, inside'⟩ := window_header (namedConfig domain) wgType wgLen 37000001000 (List.replicate 16 0x41) []
  have line : branchLine (namedConfig domain) (civilTime 37000001000) = branchLine (namedConfig domain) (civilTime 37000000000) := by
    rw [branchLine, branchLine, sipAuthToken_namedConfig, sipAuthToken_namedConfig, same]
  by_contra ambiguous
  rw [← namedConfig_sni short] at ambiguous
  obtain ⟨n, misled⟩ := @date_misled (namedConfig domain) wgType wgLen ambiguous (civilTime 37000000000)
  rw [split, misled _ _ inside] at date
  rw [split', line, misled _ _ inside'] at date'
  exact sampleDates (date.symm.trans date')

theorem token_unambiguous (short : domain.length ≤ 31)
    (all : ∀ taiNs, (civilTime taiNs).y = 1970 → sipAuthToken sampleConfig (civilTime taiNs) ≠ 0 →
      ReadBack (namedConfig domain) wgType wgLen taiNs (List.replicate 16 0x41) []) :
    Quiet tokenPattern (nameText wgType domain) [] := by
  obtain ⟨nonzero, -, nonzero', different⟩ := sampleTokens
  obtain ⟨-, token, -⟩ := all 37000000000 (by decide) nonzero
  obtain ⟨-, token', -⟩ := all 38000000000 (by decide) nonzero'
  obtain ⟨⟨rest, split⟩, inside⟩ := window_header (namedConfig domain) wgType wgLen 37000000000 (List.replicate 16 0x41) []
  obtain ⟨⟨rest', split'⟩, inside'⟩ := window_header (namedConfig domain) wgType wgLen 38000000000 (List.replicate 16 0x41) []
  by_contra ambiguous
  rw [← namedConfig_sni short] at ambiguous
  obtain ⟨read, misled⟩ := @token_misled (namedConfig domain) wgType wgLen ambiguous
  rw [split, misled _ _ (by omega), sipAuthToken_namedConfig] at token
  rw [split', misled _ _ (by omega), sipAuthToken_namedConfig] at token'
  exact different (token.symm.trans token')

theorem sip_selfConsistent_iff (domain : Buf) (short : domain.length ≤ 31) (wgType : UInt8) (wgLen : Nat) :
    SelfConsistent domain wgType wgLen ↔ Unambiguous (nameText wgType domain) := by
  constructor
  · intro all
    have sample (taiNs : Nat) (year : (civilTime taiNs).y = 1970) (nonzero : sipAuthToken sampleConfig (civilTime taiNs) ≠ 0) :
        ReadBack (namedConfig domain) wgType wgLen taiNs (List.replicate 16 0x41) [] :=
      all sampleKey (namedConfig domain) taiNs (List.replicate 16 0x41) [] (namedConfig_keyed domain)
        (namedConfig_sni short) (by omega) (by omega) (by rwa [sipAuthToken_namedConfig]) (by simp) samplePayload
    refine ⟨date_unambiguous short sample, token_unambiguous short sample, ?_⟩
    obtain ⟨-, -, marker, -⟩ := sample 37000000000 (by decide) sampleTokens.1
    obtain ⟨⟨rest, split⟩, inside⟩ := window_header (namedConfig domain) wgType wgLen 37000000000 (List.replicate 16 0x41) []
    have total := length_writeSipHeader (namedConfig domain) wgType wgLen 37000000000
    by_contra ambiguous
    rw [← namedConfig_sni short] at ambiguous
    have misled := marker_misled ambiguous (branchLine (namedConfig domain) (civilTime 37000000000) ++ rest)
      (Nat.le_trans (Nat.le_add_right _ 130) inside)
    rw [split] at marker
    omega
  · intro unambiguous key cfg taiNs payload stale keyed named four digits nonzero long text
    exact readBack (named ▸ unambiguous) (by omega) nonzero

-- the second domain would be misread in a request, where a space follows it
theorem sip_selfConsistent_pbx :
    SelfConsistent (ascii "pbx.example.com") 1 148 ∧ SelfConsistent (ascii "pbx.Date:") 2 92 := by
  rw [sip_selfConsistent_iff (ascii "pbx.example.com") (by decide), sip_selfConsistent_iff (ascii "pbx.Date:") (by decide)]
  exact ⟨⟨.of_differs (by decide), .of_differs (by decide), .of_differs (by decide)⟩,
    ⟨.of_absent 5 0x20 (by decide) (by decide) (by decide), .of_differs (by decide), .of_differs (by decide)⟩⟩

def zurich : Buf := ascii "zurich1-sip.example"

-- the domain has a `z` seven bytes before a dash, and the token is read behind that dash
theorem zurich_misread :
    (sipScan (writeSipHeader (namedConfig zurich) 1 148 37000000000 ++ List.replicate 16 0x41)
        ((writeSipHeader (namedConfig zurich) 1 148 37000000000).length + 16)).authToken = 0xEA ∧
      sipAuthToken sampleConfig (civilTime 37000000000) ≠ 0xEA ∧ ¬SelfConsistent zurich 1 148 := by
  have read : (sipScan (writeSipHeader (namedConfig zurich) 1 148 37000000000 ++ List.replicate 16 0x41)
      ((writeSipHeader (namedConfig zurich) 1 148 37000000000).length + 16)).authToken = 0xEA := by
    decide +kernel
  have other : sipAuthToken sampleConfig (civilTime 37000000000) ≠ 0xEA := by decide +kernel
  refine ⟨read, other, fun consistent => ?_⟩
  obtain ⟨-, token, -, -, -⟩ := consistent sampleKey (namedConfig zurich) 37000000000 (List.replicate 16 0x41) []
    (namedConfig_keyed zurich) (namedConfig_sni (by decide)) (by decide) (by decide)
    (by rw [sipAuthToken_namedConfig]; exact sampleTokens.1) (by simp) samplePayload
  have short := length_viaStart (namedConfig zurich) 1 148
  have total := length_writeSipHeader (namedConfig zurich) 1 148 37000000000
  rw [List.take_of_length_le (by rw [List.length_append, List.length_replicate]; omega), List.append_nil,
    Nat.min_eq_left (by rw [List.length_append, List.length_replicate]; omega), List.length_append, List.length_replicate,
    read, sipAuthToken_namedConfig] at token
  exact other token.symm

end Agreement

end Gutd.Bpf
