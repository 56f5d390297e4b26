import Gutd.Bpf.SipScan
import Gutd.Proto.SipHeader
import Gutd.Proto.Syslog
import Gutd.Shared.Digits
import Gutd.Shared.Gregorian

set_option autoImplicit false

namespace Gutd

open Bytes Gregorian

def dayAbbreviation : Weekday → String
  | .monday => "Mon"
  | .tuesday => "Tue"
  | .wednesday => "Wed"
  | .thursday => "Thu"
  | .friday => "Fri"
  | .saturday => "Sat"
  | .sunday => "Sun"

def monthAbbreviation : Nat → String
  | 1 => "Jan"
  | 2 => "Feb"
  | 3 => "Mar"
  | 4 => "Apr"
  | 5 => "May"
  | 6 => "Jun"
  | 7 => "Jul"
  | 8 => "Aug"
  | 9 => "Sep"
  | 10 => "Oct"
  | 11 => "Nov"
  | _ => "Dec"

def sipDate (d : Date) : Buf :=
  decimalPadded 2 d.day ++ (ascii " " ++ (ascii (monthAbbreviation d.month) ++ (ascii " " ++ decimalPadded 4 d.year)))

def isoDate (d : Date) : Buf :=
  decimalPadded 4 d.year ++ (ascii "-" ++ (decimalPadded 2 d.month ++ (ascii "-" ++ decimalPadded 2 d.day)))

section Moment

variable {t : Nat} (fourDigits : (dateOf (t / 86400)).year ≤ 9999)

theorem dateOf_eq (days : Nat) : dateOf days = ⟨Calendar.year days, Calendar.month days, Calendar.day days⟩ :=
  (calendar_date days).symm

theorem dateOf_range (days : Nat) :
    (1 ≤ (dateOf days).month ∧ (dateOf days).month ≤ 12) ∧ 1 ≤ (dateOf days).day ∧ (dateOf days).day ≤ 31 := by
  rw [dateOf_eq]
  exact ⟨Calendar.month_range days, Calendar.day_range days⟩

include fourDigits

theorem days_lt : t / 86400 < 2932957 := by
  rw [dateOf_eq] at fourDigits
  exact Calendar.days_lt _ (Nat.lt_succ_of_le fourDigits)

-- none of the sums of the program wraps around
theorem civilTime_eq {taiNs : Nat} (clock : taiNs / 1000000000 = t + 37) :
    (Bpf.civilTime taiNs).y = (dateOf (t / 86400)).year ∧ (Bpf.civilTime taiNs).m = (dateOf (t / 86400)).month ∧
      (Bpf.civilTime taiNs).d = (dateOf (t / 86400)).day ∧ (Bpf.civilTime taiNs).dow = (t / 86400 + 3) % 7 := by
  have bound := days_lt fourDigits
  have secs : (t + 37 + 2 ^ 64 - 37) % 2 ^ 64 = t := by omega
  have days : t / 86400 % 2 ^ 32 = t / 86400 := Nat.mod_eq_of_lt (by omega)
  have shifted : (t / 86400 + 719468) % 2 ^ 32 = t / 86400 + 719468 := Nat.mod_eq_of_lt (by omega)
  have weekday : (t / 86400 + 3) % 2 ^ 32 = t / 86400 + 3 := Nat.mod_eq_of_lt (by omega)
  rw [dateOf_eq]
  simp only [Bpf.civilTime, clock, secs, days, shifted, weekday, and_true]
  exact ⟨rfl, rfl, rfl⟩

end Moment

theorem year_ge (days : Nat) : 1970 ≤ (dateOf days).year := by
  have grows (d : Date) : d.year ≤ d.next.year := by
    rw [Date.next]
    split_ifs
    · exact Nat.le_refl _
    · exact Nat.le_refl _
    · exact Nat.le_succ _
  induction days with
  | zero => decide
  | succ days ih =>
      rw [dateOf, Function.iterate_succ_apply', ← dateOf]
      exact Nat.le_trans ih (grows _)

theorem monthNames_eq {m : Nat} (range : 1 ≤ m ∧ m ≤ 12) :
    Sip.monthNames[m - 1]? = some (monthAbbreviation m) ∧ Sip.monthNames.getD ((m - 1) % 12) "Dec" = monthAbbreviation m := by
  have table : ∀ m ≤ 12, 1 ≤ m → Sip.monthNames[m - 1]? = some (monthAbbreviation m) ∧
      Sip.monthNames.getD ((m - 1) % 12) "Dec" = monthAbbreviation m := by decide
  exact table m range.2 range.1

-- the program counts from Monday like this, userspace one further
theorem dayNames_eq (days : Nat) :
    Sip.dayNames.getD ((days + 3) % 7) "Sun" = dayAbbreviation (weekdayOf days) ∧
      Sip.dayNames[(days + 4) % 7]? ≠ some (dayAbbreviation (weekdayOf days)) := by
  have table : ∀ r < 7, Sip.dayNames.getD r "Sun" =
      dayAbbreviation ([.monday, .tuesday, .wednesday, .thursday, .friday, .saturday, .sunday].getD r .sunday) ∧
        Sip.dayNames[(r + 1) % 7]? ≠
          some (dayAbbreviation ([.monday, .tuesday, .wednesday, .thursday, .friday, .saturday, .sunday].getD r .sunday)) := by
    decide
  have here := table ((days + 3) % 7) (Nat.mod_lt _ (by decide))
  rwa [← weekdayOf_eq, show ((days + 3) % 7 + 1) % 7 = (days + 4) % 7 by omega] at here

theorem digits2_eq {n : Nat} (small : n < 100) : Bpf.digits2 n = decimalPadded 2 n := by
  rw [decimalPadded_succ (by decide), decimalPadded_one (by omega)]
  rfl

theorem digits4_eq {n : Nat} (small : n < 10000) : Bpf.digits4 n = decimalPadded 4 n := by
  have hundreds : n / 10 / 10 = n / 100 := by omega
  have thousands : n / 100 / 10 = n / 1000 := by omega
  have first : n / 1000 % 10 = n / 1000 := by omega
  rw [decimalPadded_succ (by decide), decimalPadded_succ (by decide), decimalPadded_succ (by decide), hundreds, thousands,
    decimalPadded_one (by omega), Bpf.digits4, first]
  rfl

section Places

variable {t : Nat}

theorem formatSipDateOnly_date :
    ∃ dayName, Sip.dayNames[(t / 86400 + 4) % 7]? = some dayName ∧
      Sip.formatSipDateOnly t = .ok (ascii dayName ++ (ascii ", " ++ sipDate (dateOf (t / 86400)))) := by
  obtain ⟨dayName, monthName, weekday, month, text⟩ := Sip.formatSipDateOnly_text t
  have year := decimalPadded_of_large (by decide) (Nat.le_trans (by decide : 10 ^ 3 ≤ 1970) (year_ge (t / 86400)))
  rw [(monthNames_eq (Calendar.month_range _)).1, Option.some.injEq] at month
  refine ⟨dayName, weekday, ?_⟩
  rw [text, ← month, sipDate, year, dateOf_eq]
  simp only [List.append_assoc]

theorem length_isoDate (fourDigits : (dateOf (t / 86400)).year ≤ 9999) : (isoDate (dateOf (t / 86400))).length = 10 := by
  obtain ⟨months, days⟩ := dateOf_range (t / 86400)
  have dash : (ascii "-").length = 1 := rfl
  simp only [isoDate, List.length_append, dash]
  rw [length_decimalPadded (by decide) (by omega), length_decimalPadded (by decide) (by omega),
    length_decimalPadded (by decide) (by omega)]

theorem headerLine_date (name : Buf) :
    ∃ rest, Syslog.headerLine t name = ascii "<165>1 " ++ isoDate (dateOf (t / 86400)) ++ rest := by
  rw [Syslog.headerLine_eq, dateOf_eq, isoDate]
  simp only [List.append_assoc]
  exact ⟨_, rfl⟩

variable {taiNs : Nat} (fourDigits : (dateOf (t / 86400)).year ≤ 9999) (clock : taiNs / 1000000000 = t + 37)

include fourDigits clock

theorem writeSyslogAscii_date (cfg : Bpf.GutConfig) :
    ∃ rest, Bpf.writeSyslogAscii cfg taiNs = ascii "<165>1 " ++ isoDate (dateOf (t / 86400)) ++ rest := by
  obtain ⟨year, month, day, -⟩ := civilTime_eq fourDigits clock
  obtain ⟨months, days⟩ := dateOf_range (t / 86400)
  rw [Bpf.writeSyslogAscii, year, month, day, isoDate, digits4_eq (by omega), digits2_eq (by omega), digits2_eq (by omega)]
  simp only [List.append_assoc]
  exact ⟨_, rfl⟩

theorem writeSipHeader_date (cfg : Bpf.GutConfig) (wgType : UInt8) (wgLen : Nat) :
    ∃ rest, Bpf.writeSipHeader cfg wgType wgLen taiNs =
      Bpf.viaStart cfg wgType wgLen ++ (Bpf.branchLine cfg (Bpf.civilTime taiNs) ++ (ascii "Date: " ++
        (ascii (dayAbbreviation (weekdayOf (t / 86400))) ++ (ascii ", " ++ (sipDate (dateOf (t / 86400)) ++ rest))))) := by
  obtain ⟨year, month, day, weekday⟩ := civilTime_eq fourDigits clock
  obtain ⟨months, days⟩ := dateOf_range (t / 86400)
  rw [Bpf.writeSipHeader_eq, Bpf.dateText, year, month, day, weekday, sipDate, (dayNames_eq _).1, (monthNames_eq months).2,
    digits4_eq (by omega), digits2_eq (by omega)]
  simp only [List.append_assoc]
  exact ⟨_, rfl⟩

end Places

theorem dates_gregorian {t taiNs : Nat} (fourDigits : (dateOf (t / 86400)).year ≤ 9999)
    (clock : taiNs / 1000000000 = t + 37) :
    (∃ weekday, weekday.length = 3 ∧
        Sip.formatSipDateOnly t = .ok (weekday ++ (ascii ", " ++ sipDate (dateOf (t / 86400))))) ∧
      (∀ room name header, Syslog.writeHeader room t name = .ok header →
        header.take 17 = ascii "<165>1 " ++ isoDate (dateOf (t / 86400))) ∧
      (∀ cfg, (Bpf.writeSyslogAscii cfg taiNs).take 17 = ascii "<165>1 " ++ isoDate (dateOf (t / 86400))) ∧
      ∀ cfg wgType wgLen, ∃ weekday rest, weekday.length = 3 ∧ Bpf.writeSipHeader cfg wgType wgLen taiNs =
        Bpf.viaStart cfg wgType wgLen ++ (Bpf.branchLine cfg (Bpf.civilTime taiNs) ++ (ascii "Date: " ++
          (weekday ++ (ascii ", " ++ (sipDate (dateOf (t / 86400)) ++ rest))))) := by
  have names : (∀ name ∈ Sip.dayNames, (ascii name).length = 3) ∧ ∀ day, (ascii (dayAbbreviation day)).length = 3 := by
    refine ⟨by decide, fun day => ?_⟩
    cases day <;> rfl
  have width : (ascii "<165>1 " ++ isoDate (dateOf (t / 86400))).length = 17 := by
    rw [List.length_append, length_isoDate fourDigits]
    rfl
  refine ⟨?_, fun room name header written => ?_, fun cfg => ?_, fun cfg wgType wgLen => ?_⟩
  · obtain ⟨dayName, weekday, text⟩ := @formatSipDateOnly_date t
    exact ⟨_, names.1 _ (List.mem_of_getElem? weekday), text⟩
  · obtain ⟨rest, line⟩ := @headerLine_date t name
    rw [Syslog.writeHeader] at written
    split_ifs at written
    cases written
    rw [List.take_take, Nat.min_eq_left (by rw [Syslog.syslogHdrBase]; omega), line, List.take_left' width]
  · obtain ⟨rest, line⟩ := writeSyslogAscii_date fourDigits clock cfg
    rw [line, List.take_left' width]
  · obtain ⟨rest, line⟩ := writeSipHeader_date fourDigits clock cfg wgType wgLen
    exact ⟨_, rest, names.2 _, line⟩

theorem dates_gregorian_leapDay :
    dateOf (951782400 / 86400) = ⟨2000, 2, 29⟩ ∧
      (∃ weekday, weekday.length = 3 ∧
        Sip.formatSipDateOnly 951782400 = .ok (weekday ++ (ascii ", " ++ sipDate (dateOf (951782400 / 86400))))) ∧
      ∀ cfg, (Bpf.writeSyslogAscii cfg 951782437000000000).take 17 =
        ascii "<165>1 " ++ isoDate (dateOf (951782400 / 86400)) := by
  have date : dateOf (951782400 / 86400) = ⟨2000, 2, 29⟩ := by
    rw [dateOf_eq]
    decide
  obtain ⟨sip, -, syslog, -⟩ := @dates_gregorian 951782400 951782437000000000 (by rw [date]; decide) (by decide)
  exact ⟨date, sip, syslog⟩

structure PrintedWeekdays (t taiNs : Nat) (cfg : Bpf.GutConfig) (wgType : UInt8) (wgLen : Nat) (name name' : Buf) : Prop where
  length : name.length = 3 ∧ name'.length = 3
  userspace : Sip.formatSipDateOnly t = .ok (name ++ (ascii ", " ++ sipDate (dateOf (t / 86400))))
  program : ∃ rest, Bpf.writeSipHeader cfg wgType wgLen taiNs =
    Bpf.viaStart cfg wgType wgLen ++ (Bpf.branchLine cfg (Bpf.civilTime taiNs) ++ (ascii "Date: " ++
      (name' ++ (ascii ", " ++ (sipDate (dateOf (t / 86400)) ++ rest)))))

theorem ascii_dayNames_injective {name name' : String} (member : name ∈ Sip.dayNames) (member' : name' ∈ Sip.dayNames)
    (same : ascii name = ascii name') : name = name' := by
  have table : ∀ name ∈ Sip.dayNames, ∀ name' ∈ Sip.dayNames, ascii name = ascii name' → name = name' := by decide
  exact table name member name' member' same

theorem dayAbbreviation_mem (day : Weekday) : dayAbbreviation day ∈ Sip.dayNames := by
  cases day <;> decide

section Printed

variable {t taiNs : Nat} {cfg : Bpf.GutConfig} {wgType : UInt8} {wgLen : Nat} {name name' : Buf}

theorem PrintedWeekdays.userspace_eq (printed : PrintedWeekdays t taiNs cfg wgType wgLen name name') {dayName : String}
    (text : Sip.formatSipDateOnly t = .ok (ascii dayName ++ (ascii ", " ++ sipDate (dateOf (t / 86400))))) :
    name = ascii dayName := by
  have same := printed.userspace
  rw [text] at same
  exact (List.append_cancel_right (Except.ok.inj same)).symm

theorem PrintedWeekdays.program_eq (printed : PrintedWeekdays t taiNs cfg wgType wgLen name name') {day rest : Buf}
    (width : day.length = 3)
    (text : Bpf.writeSipHeader cfg wgType wgLen taiNs =
      Bpf.viaStart cfg wgType wgLen ++ (Bpf.branchLine cfg (Bpf.civilTime taiNs) ++ (ascii "Date: " ++ (day ++ rest)))) :
    name' = day := by
  obtain ⟨_, same⟩ := printed.program
  rw [text] at same
  have same := List.append_cancel_left (List.append_cancel_left (List.append_cancel_left same))
  exact (List.append_inj same (width.trans printed.length.2.symm)).1.symm

end Printed

theorem printed_weekdays_wrong {t taiNs : Nat} (fourDigits : (dateOf (t / 86400)).year ≤ 9999)
    (clock : taiNs / 1000000000 = t + 37) (cfg : Bpf.GutConfig) (wgType : UInt8) (wgLen : Nat) :
    (∃ name name', PrintedWeekdays t taiNs cfg wgType wgLen name name') ∧
      ∀ name name', PrintedWeekdays t taiNs cfg wgType wgLen name name' →
        name ≠ ascii (dayAbbreviation (weekdayOf (t / 86400))) ∧ name ≠ name' := by
  obtain ⟨dayName, weekday, text⟩ := @formatSipDateOnly_date t
  obtain ⟨rest, header⟩ := writeSipHeader_date fourDigits clock cfg wgType wgLen
  have isDay := List.mem_of_getElem? weekday
  have isDay' := dayAbbreviation_mem (weekdayOf (t / 86400))
  have length : ∀ name ∈ Sip.dayNames, (ascii name).length = 3 := by decide
  have wrong : ascii dayName ≠ ascii (dayAbbreviation (weekdayOf (t / 86400))) := by
    intro same
    rw [ascii_dayNames_injective isDay isDay' same] at weekday
    exact (dayNames_eq _).2 weekday
  refine ⟨⟨_, _, ⟨length _ isDay, length _ isDay'⟩, text, rest, header⟩, fun name name' printed => ?_⟩
  rw [printed.userspace_eq text, printed.program_eq (length _ isDay') header]
  exact ⟨wrong, wrong⟩

theorem printed_weekdays_wrong_leapDay :
    ∃ name name', PrintedWeekdays 951782400 951782437000000000 sampleConfig 1 148 name name' ∧ name ≠ name' := by
  have date : dateOf (951782400 / 86400) = ⟨2000, 2, 29⟩ := by
    rw [dateOf_eq]
    decide
  obtain ⟨⟨name, name', printed⟩, wrong⟩ :=
    @printed_weekdays_wrong 951782400 951782437000000000 (by rw [date]; decide) (by decide) sampleConfig 1 148
  exact ⟨name, name', printed, (wrong name name' printed).2⟩

theorem printed_weekdays_epoch :
    weekdayOf 0 = .thursday ∧ Sip.formatSipDateOnly 0 = .ok (ascii "Fri, 01 Jan 1970") ∧
      slice (Bpf.writeSipHeader sampleConfig 1 148 37000000000) ((Bpf.viaStart sampleConfig 1 148).length + 18)
        ((Bpf.viaStart sampleConfig 1 148).length + 40) = ascii "Date: Thu, 01 Jan 1970" :=
  ⟨rfl, by decide, by decide⟩

end Gutd
