import LogSift.Builtin.Table

/-!
Patterns for dates and times. The second 60 is a leap second.
-/

namespace LogSift.Builtin

/-- Months, days, times and the time stamps made of them. -/
def dates : Table :=
  [("MONTH",
    r"\b(?:[Jj]an(?:uary|uar)?|[Ff]eb(?:ruary|ruar)?|[Mm](?:a|ä)?r(?:ch|z)?|[Aa]pr(?:il)?|[Mm]a(?:y|i)?|[Jj]un(?:e|i)?|[Jj]ul(?:y|i)?|[Aa]ug(?:ust)?|[Ss]ep(?:tember)?|[Oo](?:c|k)?t(?:ober)?|[Nn]ov(?:ember)?|[Dd]e(?:c|z)(?:ember)?)\b"),
   ("MONTHNUM", r"\b(?:1[0-2]|0?[1-9])\b"),
   ("MONTHNUM2", r"(?:0[1-9]|1[0-2])"),
   ("MONTHDAY", r"(?:(?:0[1-9])|(?:[12][0-9])|(?:3[01])|[1-9])"),
   ("DAY",
    r"(?:Mon(?:day)?|Tue(?:sday)?|Wed(?:nesday)?|Thu(?:rsday)?|Fri(?:day)?|Sat(?:urday)?|Sun(?:day)?)"),
   ("YEAR", r"(?:\d\d){1,2}"),
   ("HOUR", r"(?:2[0123]|[01]?[0-9])"),
   ("MINUTE", r"(?:[0-5][0-9])"),
   ("SECOND", r"(?:(?:60|[0-5]?[0-9])(?:[:.,][0-9]+)?)"),
   ("TIME", r"%{HOUR}:%{MINUTE}(?::%{SECOND})?"),
   ("DATE_US", r"%{MONTHNUM}[/-]%{MONTHDAY}[/-]%{YEAR}"),
   ("DATE_EU", r"%{MONTHDAY}[./-]%{MONTHNUM}[./-]%{YEAR}"),
   ("ISO8601_TIMEZONE", r"(?:Z|[+-]%{HOUR}(?::?%{MINUTE}))"),
   ("ISO8601_SECOND", r"%{SECOND}"),
   ("TIMESTAMP_ISO8601",
    r"%{YEAR}-%{MONTHNUM}-%{MONTHDAY}[T ]%{HOUR}:?%{MINUTE}(?::?%{SECOND})?%{ISO8601_TIMEZONE}?"),
   ("DATE", r"%{DATE_US}|%{DATE_EU}"),
   ("DATESTAMP", r"%{DATE}[- ]%{TIME}"),
   ("TZ", r"(?:[APMCE][SD]T|UTC|GMT|CES?T|EES?T|WES?T|MSK)"),
   ("DATESTAMP_RFC822", r"%{DAY} %{MONTH} %{MONTHDAY} %{YEAR} %{TIME} %{TZ}"),
   ("DATESTAMP_RFC2822", r"%{DAY}, %{MONTHDAY} %{MONTH} %{YEAR} %{TIME} %{ISO8601_TIMEZONE}"),
   ("DATESTAMP_OTHER", r"%{DAY} %{MONTH} %{MONTHDAY} %{TIME} %{TZ} %{YEAR}"),
   ("DATESTAMP_EVENTLOG", r"%{YEAR}%{MONTHNUM2}%{MONTHDAY}%{HOUR}%{MINUTE}%{SECOND}")]

end LogSift.Builtin
