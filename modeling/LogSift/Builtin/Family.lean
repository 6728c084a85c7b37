import LogSift.Builtin.Base

/-!
The families of definitions for particular programs. They build on the base table.
-/

namespace LogSift.Builtin

/-- Access and error logs of the Apache web server. -/
def httpd : Table :=
  [("HTTPDUSER", r"%{EMAILADDRESS}|%{USER}"),
   ("HTTPDERROR_DATE", r"%{DAY} %{MONTH} %{MONTHDAY} %{TIME} %{YEAR}"),
   ("HTTPD_COMMONLOG",
    r#"%{IPORHOST:source.address} (?:-|%{HTTPDUSER:apache.access.user.identity}) (?:-|%{HTTPDUSER:user.name}) \[%{HTTPDATE:timestamp}\] "(?:%{WORD:http.request.method} %{NOTSPACE:url.original}(?: HTTP/%{NUMBER:http.version})?|%{DATA})" (?:-|%{INT:http.response.status_code:int}) (?:-|%{INT:http.response.body.bytes:int})"#),
   ("HTTPD_COMBINEDLOG",
    r#"%{HTTPD_COMMONLOG} "(?:-|%{DATA:http.request.referrer})" "(?:-|%{DATA:user_agent.original})""#),
   ("HTTPD20_ERRORLOG",
    r"\[%{HTTPDERROR_DATE:timestamp}\] \[%{LOGLEVEL:log.level}\] (?:\[client %{IPORHOST:source.address}\] )?%{GREEDYDATA:message}"),
   ("HTTPD24_ERRORLOG",
    r"\[%{HTTPDERROR_DATE:timestamp}\] \[(?:%{WORD:apache.error.module})?:%{LOGLEVEL:log.level}\] \[pid %{POSINT:process.pid:int}(?::tid %{INT:process.thread.id:int})?\](?: \(%{POSINT:apache.error.proxy.error.code}\)%{DATA:apache.error.proxy.error.message}:)?(?: \[client %{IPORHOST:source.address}(?::%{POSINT:source.port:int})?\])?(?: %{DATA:error.code}:)? %{GREEDYDATA:message}"),
   ("HTTPD_ERRORLOG", r"%{HTTPD20_ERRORLOG}|%{HTTPD24_ERRORLOG}"),
   ("COMMONAPACHELOG", r"%{HTTPD_COMMONLOG}"),
   ("COMBINEDAPACHELOG", r"%{HTTPD_COMBINEDLOG}")]

/-- Server logs of MongoDB. -/
def mongodb : Table :=
  [("MONGO_LOG",
    r"%{SYSLOGTIMESTAMP:timestamp} \[%{WORD:mongodb.component}\] %{GREEDYDATA:message}"),
   ("MONGO_QUERY_CONTENT", r"(.*?)"),
   ("MONGO_QUERY", r"\{ %{MONGO_QUERY_CONTENT:MONGO_QUERY} \} ntoreturn:"),
   ("MONGO_SLOWQUERY",
    r"%{WORD:mongodb.profile.op} %{MONGO_WORDDASH:mongodb.database}\.%{MONGO_WORDDASH:mongodb.collection} %{WORD}: \{ %{MONGO_QUERY_CONTENT:mongodb.query.original} \} ntoreturn:%{NONNEGINT:mongodb.profile.ntoreturn:int} ntoskip:%{NONNEGINT:mongodb.profile.ntoskip:int} nscanned:%{NONNEGINT:mongodb.profile.nscanned:int}.*? nreturned:%{NONNEGINT:mongodb.profile.nreturned:int}.*? %{INT:mongodb.profile.duration:int}ms"),
   ("MONGO_WORDDASH", r"\b[\w-]+\b"),
   ("MONGO3_SEVERITY", r"\w"),
   ("MONGO3_COMPONENT", r"%{WORD}"),
   ("MONGO3_LOG",
    r"%{TIMESTAMP_ISO8601:timestamp} %{MONGO3_SEVERITY:log.level} (?:-|%{MONGO3_COMPONENT:mongodb.component})%{SPACE}(?:\[%{DATA:mongodb.context}\])? %{GREEDYDATA:message}")]

/-- Server and monitor logs of Redis. -/
def redis : Table :=
  [("REDISTIMESTAMP", r"%{MONTHDAY} %{MONTH} %{TIME}"),
   ("REDISLOG", r"\[%{POSINT:process.pid:int}\] %{REDISTIMESTAMP:timestamp} \*"),
   ("REDISMONLOG",
    r#"%{NUMBER:timestamp} \[%{INT:redis.database.id} %{IPORHOST:client.address}:%{POSINT:client.port:int}\] "%{WORD:redis.command.name}"\s?%{GREEDYDATA:redis.command.args}"#)]

/-- System logs in both formats, and logs of the job scheduler. -/
def syslog : Table :=
  [("SYSLOG5424PRINTASCII", r"[!-~]+"),
   ("SYSLOGBASE",
    r"%{SYSLOGTIMESTAMP:timestamp} (?:%{SYSLOGFACILITY} )?%{SYSLOGHOST:host.name} %{SYSLOGPROG}:"),
   ("SYSLOGBASE2",
    r"(?:%{SYSLOGTIMESTAMP:timestamp}|%{TIMESTAMP_ISO8601:timestamp})(?: %{SYSLOGFACILITY})?(?: %{SYSLOGHOST:host.name})?(?: %{SYSLOGPROG}:)?"),
   ("SYSLOGLINE", r"%{SYSLOGBASE2} %{GREEDYDATA:message}"),
   ("SYSLOGPAMSESSION",
    r"%{SYSLOGBASE} %{WORD:system.auth.pam.module}\(%{DATA:system.auth.pam.origin}\): session %{WORD:system.auth.pam.session_state} for user %{USERNAME:user.name}(?: by %{GREEDYDATA})?"),
   ("CRON_ACTION", r"[A-Z ]+"),
   ("CRONLOG",
    r"%{SYSLOGBASE} \(%{USER:user.name}\) %{CRON_ACTION:system.cron.action} \(%{DATA:message}\)"),
   ("SYSLOG5424PRI", r"<%{NONNEGINT:log.syslog.priority:int}>"),
   ("SYSLOG5424SD", r"\[%{DATA}\]+"),
   ("SYSLOG5424BASE",
    r"%{SYSLOG5424PRI}%{NONNEGINT:system.syslog.version} +(?:-|%{TIMESTAMP_ISO8601:timestamp}) +(?:-|%{IPORHOST:host.hostname}) +(?:-|%{SYSLOG5424PRINTASCII:process.name}) +(?:-|%{POSINT:process.pid:int}) +(?:-|%{SYSLOG5424PRINTASCII:event.code}) +(?:-|%{SYSLOG5424SD:system.syslog.structured_data})?"),
   ("SYSLOG5424LINE", r"%{SYSLOG5424BASE} +%{GREEDYDATA:message}")]

/-- The families of definitions that a library may add, by name. -/
def families : List (String × Table) :=
  [("httpd", httpd), ("mongodb", mongodb), ("redis", redis), ("syslog", syslog)]

/-- The family of a name; the case of ASCII letters does not count. -/
def family? (name : String) : Option Table :=
  let lowered := name.toList.map Char.toLower
  (families.find? fun entry => entry.1.toList = lowered).map (·.2)

/-- The table of a name: the base table or a family. -/
def table? (name : String) : Option Table := if name = "base" then some base else family? name

end LogSift.Builtin
