/-!
# Table: named characters, small letters s to z

The names of character references that begin with the small letters s to z, each with the
code points that it stands for. A few names may also be written without the
semicolon and are listed both ways.
-/

namespace Almanac.Html.Table

/-- Named characters that begin with the small letters s to z. -/
def smallSToZ : List (String × List Nat) := [
  ("sacute;", [347]), ("sbquo;", [8218]), ("sc;", [8827]), ("scE;", [10932]), ("scap;", [10936]),
  ("scaron;", [353]), ("sccue;", [8829]), ("sce;", [10928]), ("scedil;", [351]),
  ("scirc;", [349]), ("scnE;", [10934]), ("scnap;", [10938]), ("scnsim;", [8937]),
  ("scpolint;", [10771]), ("scsim;", [8831]), ("scy;", [1089]), ("sdot;", [8901]),
  ("sdotb;", [8865]), ("sdote;", [10854]), ("seArr;", [8664]), ("searhk;", [10533]),
  ("searr;", [8600]), ("searrow;", [8600]), ("sect", [167]), ("sect;", [167]), ("semi;", [59]),
  ("seswar;", [10537]), ("setminus;", [8726]), ("setmn;", [8726]), ("sext;", [10038]),
  ("sfr;", [120112]), ("sfrown;", [8994]), ("sharp;", [9839]), ("shchcy;", [1097]),
  ("shcy;", [1096]), ("shortmid;", [8739]), ("shortparallel;", [8741]), ("shy", [173]),
  ("shy;", [173]), ("sigma;", [963]), ("sigmaf;", [962]), ("sigmav;", [962]), ("sim;", [8764]),
  ("simdot;", [10858]), ("sime;", [8771]), ("simeq;", [8771]), ("simg;", [10910]),
  ("simgE;", [10912]), ("siml;", [10909]), ("simlE;", [10911]), ("simne;", [8774]),
  ("simplus;", [10788]), ("simrarr;", [10610]), ("slarr;", [8592]), ("smallsetminus;", [8726]),
  ("smashp;", [10803]), ("smeparsl;", [10724]), ("smid;", [8739]), ("smile;", [8995]),
  ("smt;", [10922]), ("smte;", [10924]), ("smtes;", [10924, 65024]), ("softcy;", [1100]),
  ("sol;", [47]), ("solb;", [10692]), ("solbar;", [9023]), ("sopf;", [120164]),
  ("spades;", [9824]), ("spadesuit;", [9824]), ("spar;", [8741]), ("sqcap;", [8851]),
  ("sqcaps;", [8851, 65024]), ("sqcup;", [8852]), ("sqcups;", [8852, 65024]), ("sqsub;", [8847]),
  ("sqsube;", [8849]), ("sqsubset;", [8847]), ("sqsubseteq;", [8849]), ("sqsup;", [8848]),
  ("sqsupe;", [8850]), ("sqsupset;", [8848]), ("sqsupseteq;", [8850]), ("squ;", [9633]),
  ("square;", [9633]), ("squarf;", [9642]), ("squf;", [9642]), ("srarr;", [8594]),
  ("sscr;", [120008]), ("ssetmn;", [8726]), ("ssmile;", [8995]), ("sstarf;", [8902]),
  ("star;", [9734]), ("starf;", [9733]), ("straightepsilon;", [1013]), ("straightphi;", [981]),
  ("strns;", [175]), ("sub;", [8834]), ("subE;", [10949]), ("subdot;", [10941]),
  ("sube;", [8838]), ("subedot;", [10947]), ("submult;", [10945]), ("subnE;", [10955]),
  ("subne;", [8842]), ("subplus;", [10943]), ("subrarr;", [10617]), ("subset;", [8834]),
  ("subseteq;", [8838]), ("subseteqq;", [10949]), ("subsetneq;", [8842]),
  ("subsetneqq;", [10955]), ("subsim;", [10951]), ("subsub;", [10965]), ("subsup;", [10963]),
  ("succ;", [8827]), ("succapprox;", [10936]), ("succcurlyeq;", [8829]), ("succeq;", [10928]),
  ("succnapprox;", [10938]), ("succneqq;", [10934]), ("succnsim;", [8937]), ("succsim;", [8831]),
  ("sum;", [8721]), ("sung;", [9834]), ("sup1", [185]), ("sup1;", [185]), ("sup2", [178]),
  ("sup2;", [178]), ("sup3", [179]), ("sup3;", [179]), ("sup;", [8835]), ("supE;", [10950]),
  ("supdot;", [10942]), ("supdsub;", [10968]), ("supe;", [8839]), ("supedot;", [10948]),
  ("suphsol;", [10185]), ("suphsub;", [10967]), ("suplarr;", [10619]), ("supmult;", [10946]),
  ("supnE;", [10956]), ("supne;", [8843]), ("supplus;", [10944]), ("supset;", [8835]),
  ("supseteq;", [8839]), ("supseteqq;", [10950]), ("supsetneq;", [8843]),
  ("supsetneqq;", [10956]), ("supsim;", [10952]), ("supsub;", [10964]), ("supsup;", [10966]),
  ("swArr;", [8665]), ("swarhk;", [10534]), ("swarr;", [8601]), ("swarrow;", [8601]),
  ("swnwar;", [10538]), ("szlig", [223]), ("szlig;", [223]), ("target;", [8982]), ("tau;", [964]),
  ("tbrk;", [9140]), ("tcaron;", [357]), ("tcedil;", [355]), ("tcy;", [1090]), ("tdot;", [8411]),
  ("telrec;", [8981]), ("tfr;", [120113]), ("there4;", [8756]), ("therefore;", [8756]),
  ("theta;", [952]), ("thetasym;", [977]), ("thetav;", [977]), ("thickapprox;", [8776]),
  ("thicksim;", [8764]), ("thinsp;", [8201]), ("thkap;", [8776]), ("thksim;", [8764]),
  ("thorn", [254]), ("thorn;", [254]), ("tilde;", [732]), ("times", [215]), ("times;", [215]),
  ("timesb;", [8864]), ("timesbar;", [10801]), ("timesd;", [10800]), ("tint;", [8749]),
  ("toea;", [10536]), ("top;", [8868]), ("topbot;", [9014]), ("topcir;", [10993]),
  ("topf;", [120165]), ("topfork;", [10970]), ("tosa;", [10537]), ("tprime;", [8244]),
  ("trade;", [8482]), ("triangle;", [9653]), ("triangledown;", [9663]), ("triangleleft;", [9667]),
  ("trianglelefteq;", [8884]), ("triangleq;", [8796]), ("triangleright;", [9657]),
  ("trianglerighteq;", [8885]), ("tridot;", [9708]), ("trie;", [8796]), ("triminus;", [10810]),
  ("triplus;", [10809]), ("trisb;", [10701]), ("tritime;", [10811]), ("trpezium;", [9186]),
  ("tscr;", [120009]), ("tscy;", [1094]), ("tshcy;", [1115]), ("tstrok;", [359]),
  ("twixt;", [8812]), ("twoheadleftarrow;", [8606]), ("twoheadrightarrow;", [8608]),
  ("uArr;", [8657]), ("uHar;", [10595]), ("uacute", [250]), ("uacute;", [250]), ("uarr;", [8593]),
  ("ubrcy;", [1118]), ("ubreve;", [365]), ("ucirc", [251]), ("ucirc;", [251]), ("ucy;", [1091]),
  ("udarr;", [8645]), ("udblac;", [369]), ("udhar;", [10606]), ("ufisht;", [10622]),
  ("ufr;", [120114]), ("ugrave", [249]), ("ugrave;", [249]), ("uharl;", [8639]),
  ("uharr;", [8638]), ("uhblk;", [9600]), ("ulcorn;", [8988]), ("ulcorner;", [8988]),
  ("ulcrop;", [8975]), ("ultri;", [9720]), ("umacr;", [363]), ("uml", [168]), ("uml;", [168]),
  ("uogon;", [371]), ("uopf;", [120166]), ("uparrow;", [8593]), ("updownarrow;", [8597]),
  ("upharpoonleft;", [8639]), ("upharpoonright;", [8638]), ("uplus;", [8846]), ("upsi;", [965]),
  ("upsih;", [978]), ("upsilon;", [965]), ("upuparrows;", [8648]), ("urcorn;", [8989]),
  ("urcorner;", [8989]), ("urcrop;", [8974]), ("uring;", [367]), ("urtri;", [9721]),
  ("uscr;", [120010]), ("utdot;", [8944]), ("utilde;", [361]), ("utri;", [9653]),
  ("utrif;", [9652]), ("uuarr;", [8648]), ("uuml", [252]), ("uuml;", [252]),
  ("uwangle;", [10663]), ("vArr;", [8661]), ("vBar;", [10984]), ("vBarv;", [10985]),
  ("vDash;", [8872]), ("vangrt;", [10652]), ("varepsilon;", [1013]), ("varkappa;", [1008]),
  ("varnothing;", [8709]), ("varphi;", [981]), ("varpi;", [982]), ("varpropto;", [8733]),
  ("varr;", [8597]), ("varrho;", [1009]), ("varsigma;", [962]), ("varsubsetneq;", [8842, 65024]),
  ("varsubsetneqq;", [10955, 65024]), ("varsupsetneq;", [8843, 65024]),
  ("varsupsetneqq;", [10956, 65024]), ("vartheta;", [977]), ("vartriangleleft;", [8882]),
  ("vartriangleright;", [8883]), ("vcy;", [1074]), ("vdash;", [8866]), ("vee;", [8744]),
  ("veebar;", [8891]), ("veeeq;", [8794]), ("vellip;", [8942]), ("verbar;", [124]),
  ("vert;", [124]), ("vfr;", [120115]), ("vltri;", [8882]), ("vnsub;", [8834, 8402]),
  ("vnsup;", [8835, 8402]), ("vopf;", [120167]), ("vprop;", [8733]), ("vrtri;", [8883]),
  ("vscr;", [120011]), ("vsubnE;", [10955, 65024]), ("vsubne;", [8842, 65024]),
  ("vsupnE;", [10956, 65024]), ("vsupne;", [8843, 65024]), ("vzigzag;", [10650]),
  ("wcirc;", [373]), ("wedbar;", [10847]), ("wedge;", [8743]), ("wedgeq;", [8793]),
  ("weierp;", [8472]), ("wfr;", [120116]), ("wopf;", [120168]), ("wp;", [8472]), ("wr;", [8768]),
  ("wreath;", [8768]), ("wscr;", [120012]), ("xcap;", [8898]), ("xcirc;", [9711]),
  ("xcup;", [8899]), ("xdtri;", [9661]), ("xfr;", [120117]), ("xhArr;", [10234]),
  ("xharr;", [10231]), ("xi;", [958]), ("xlArr;", [10232]), ("xlarr;", [10229]),
  ("xmap;", [10236]), ("xnis;", [8955]), ("xodot;", [10752]), ("xopf;", [120169]),
  ("xoplus;", [10753]), ("xotime;", [10754]), ("xrArr;", [10233]), ("xrarr;", [10230]),
  ("xscr;", [120013]), ("xsqcup;", [10758]), ("xuplus;", [10756]), ("xutri;", [9651]),
  ("xvee;", [8897]), ("xwedge;", [8896]), ("yacute", [253]), ("yacute;", [253]),
  ("yacy;", [1103]), ("ycirc;", [375]), ("ycy;", [1099]), ("yen", [165]), ("yen;", [165]),
  ("yfr;", [120118]), ("yicy;", [1111]), ("yopf;", [120170]), ("yscr;", [120014]),
  ("yucy;", [1102]), ("yuml", [255]), ("yuml;", [255]), ("zacute;", [378]), ("zcaron;", [382]),
  ("zcy;", [1079]), ("zdot;", [380]), ("zeetrf;", [8488]), ("zeta;", [950]), ("zfr;", [120119]),
  ("zhcy;", [1078]), ("zigrarr;", [8669]), ("zopf;", [120171]), ("zscr;", [120015]),
  ("zwj;", [8205]), ("zwnj;", [8204])]

end Almanac.Html.Table
