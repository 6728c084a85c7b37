import LogSift.Builtin.Table

/-!
Patterns for the parts that log lines of many programs share.
-/

namespace LogSift.Builtin

/-- Program names, hosts, facilities and time stamps of system logs. -/
def syslogParts : Table :=
  [("SYSLOGTIMESTAMP", r"%{MONTH} +%{MONTHDAY} %{TIME}"),
   ("PROG", r"[\x21-\x5a\x5c\x5e-\x7e]+"),
   ("SYSLOGPROG", r"%{PROG:process.name}(?:\[%{POSINT:process.pid:int}\])?"),
   ("SYSLOGHOST", r"%{IPORHOST}"),
   ("SYSLOGFACILITY",
    r"<%{NONNEGINT:log.syslog.facility.code:int}.%{NONNEGINT:log.syslog.priority:int}>"),
   ("HTTPDATE", r"%{MONTHDAY}/%{MONTH}/%{YEAR}:%{TIME} %{INT}")]

/-- Severities. -/
def levels : Table :=
  [("LOGLEVEL",
    r"(?:[Aa]lert|ALERT|[Tt]race|TRACE|[Dd]ebug|DEBUG|[Nn]otice|NOTICE|[Ii]nfo?(?:rmation)?|INFO?(?:RMATION)?|[Ww]arn?(?:ing)?|WARN?(?:ING)?|[Ee]rr?(?:or)?|ERR?(?:OR)?|[Cc]rit?(?:ical)?|CRIT?(?:ICAL)?|[Ff]atal|FATAL|[Ss]evere|SEVERE|EMERG(?:ENCY)?|[Ee]merg(?:ency)?)")]

end LogSift.Builtin
